import ChoiceMind.TaskPersistence.Ownership
import ChoiceMind.TaskPersistence.RecoveryRows

/-!
# Owners do not disturb each other

Task ids are chosen by clients and may be shared. Submissions, operations, runs, events and
control rows are told apart by their owner; a purge tells evidence rows and audit objects
apart by task and credential id only.
-/

namespace ChoiceMind.TaskPersistence

set_option autoImplicit false

open Contracts Transition

variable {env : Environment}

namespace Store

def submissionsOwned (db : Store) (ownerUserId : String) : List Submission :=
  db.submissions.select fun row => row.ownerUserId = ownerUserId

def operationsOwned (db : Store) (ownerUserId : String) : List Operation :=
  db.operations.select fun row => db.ownerOf row = some ownerUserId

def runEventsOwned (db : Store) (ownerUserId : String) : List RunEventRow :=
  db.runEvents.select fun row => db.runOwner row.event.agentRunId = some ownerUserId

def controlStatesOwned (db : Store) (ownerUserId : String) : List ControlState :=
  db.controlStates.select fun row => db.runOwner row.agentRunId = some ownerUserId

def controlRequestsOwned (db : Store) (ownerUserId : String) : List ControlRequest :=
  db.controlRequests.select fun row => db.operationOwner row.operationId = some ownerUserId

def credentialsOwned (db : Store) (ownerUserId : String) : List EncryptedCredential :=
  db.credentials.select fun row => row.key.ownerUserId = ownerUserId

/-- The task ids of an owner. -/
def taskIds (db : Store) (ownerUserId : String) : List String :=
  (db.submissionsOwned ownerUserId).map Submission.decisionTaskId

/-- The evidence rows of an owner's tasks. -/
def evidenceOwned (db : Store) (ownerUserId : String) : List EvidenceIndexRow :=
  db.evidenceIndex.select fun row => row.decisionTaskId ∈ db.taskIds ownerUserId

/-- The ids of an owner's tasks and credentials, under which audit records name them. -/
def privateObjectIds (db : Store) (ownerUserId : String) : List String :=
  db.taskIds ownerUserId ++
    (db.credentialsOwned ownerUserId).map fun row => row.key.credentialId

/-- The operations of an owner that a worker may claim. -/
def claimableOf (db : Store) (ownerUserId : String) (now : Instant) : List Operation :=
  (db.operationsOwned ownerUserId).filter fun row => row.claimable now

end Store

/-- What concerns an owner is in `db'` as in `db`, where `actingUserId` has acted between. -/
structure Undisturbed (actingUserId ownerUserId : String) (db db' : Store) : Prop where
  get : ∀ decisionTaskId, get decisionTaskId ownerUserId db' = get decisionTaskId ownerUserId db
  listEvents : ∀ decisionTaskId afterCursor,
    listEvents decisionTaskId ownerUserId afterCursor db' =
      listEvents decisionTaskId ownerUserId afterCursor db
  evidenceIndex : db'.evidenceOwned ownerUserId = db.evidenceOwned ownerUserId
  controlStates : db'.controlStatesOwned ownerUserId = db.controlStatesOwned ownerUserId
  controlRequests : db'.controlRequestsOwned ownerUserId = db.controlRequestsOwned ownerUserId
  claimable : ∀ now, db'.claimableOf ownerUserId now = db.claimableOf ownerUserId now
  /-- records of others about the owner's objects, with their object ids -/
  auditRecords : ∀ record ∈ db.auditRecords, record.actorUserId ≠ actingUserId →
    record.objectId ∈ db.privateObjectIds ownerUserId → record ∈ db'.auditRecords

/-- The action is one that an owner can cause. -/
def Action.actsFor (actingUserId : String) : Action → Bool
  | .submit _ ownerUserId => ownerUserId = actingUserId
  | .requestRuntimeResume input => input.ownerUserId = actingUserId
  | .requestRuntimeCancel input => input.ownerUserId = actingUserId
  | .purgePrivateDataForOwner ownerUserId => ownerUserId = actingUserId
  | _ => false

/-- No evidence row is of a task id of both owners, and no audit record of another actor
names an object id of both. -/
def Store.apart (db : Store) (actingUserId ownerUserId : String) : Bool :=
  (db.evidenceIndex.rows.all fun row =>
    !(row.decisionTaskId ∈ db.taskIds actingUserId &&
      row.decisionTaskId ∈ db.taskIds ownerUserId)) &&
  db.auditRecords.rows.all fun record => record.actorUserId = actingUserId ||
    !(record.objectId ∈ db.privateObjectIds actingUserId &&
      record.objectId ∈ db.privateObjectIds ownerUserId)

/-- A purge that commits finds the two owners apart. -/
def purgesApart (env : Environment) (actingUserId ownerUserId : String) (db : Store)
    (label : Instant × Action) : Bool :=
  match label.2 with
  | .purgePrivateDataForOwner _ =>
    !(perform env label.1 db label.2).isOk || db.apart actingUserId ownerUserId
  | _ => true

/-- The rows of an owner are the same. -/
structure SameOwned (ownerUserId : String) (db db' : Store) : Prop where
  submissions : db'.submissionsOwned ownerUserId = db.submissionsOwned ownerUserId
  operations : db'.operationsOwned ownerUserId = db.operationsOwned ownerUserId
  runEvents : db'.runEventsOwned ownerUserId = db.runEventsOwned ownerUserId
  controlStates : db'.controlStatesOwned ownerUserId = db.controlStatesOwned ownerUserId
  controlRequests : db'.controlRequestsOwned ownerUserId = db.controlRequestsOwned ownerUserId
  credentials : db'.credentialsOwned ownerUserId = db.credentialsOwned ownerUserId

/-- Both stores say the same about what belongs to an owner. -/
structure SameOwners (ownerUserId : String) (db db' : Store) : Prop where
  ownerOf : ∀ row, db'.ownerOf row = some ownerUserId ↔ db.ownerOf row = some ownerUserId
  operationOwner : ∀ operationId, db'.operationOwner operationId = some ownerUserId ↔
    db.operationOwner operationId = some ownerUserId
  runOwner : ∀ agentRunId, db'.runOwner agentRunId = some ownerUserId ↔
    db.runOwner agentRunId = some ownerUserId

section Owners
variable {db db' : Store} {actingUserId ownerUserId : String}

theorem operationOwner_eq_some {operationId : String} :
    db.operationOwner operationId = some ownerUserId ↔
      ∃ row ∈ db.operations, row.operationId = operationId ∧
        db.ownerOf row = some ownerUserId := by
  simp only [Store.operationOwner, Option.bind_eq_some_iff, Table.find?_eq_some, and_assoc]

theorem runOwner_eq_some {agentRunId : String} :
    db.runOwner agentRunId = some ownerUserId ↔
      ∃ run ∈ db.agentRuns, run.agentRunId = agentRunId ∧
        db.operationOwner run.operationId = some ownerUserId := by
  simp only [runOwner_eq, Store.runOperation, Option.bind_eq_some_iff, Option.map_eq_some_iff,
    Table.find?_eq_some]
  constructor
  · rintro ⟨_, ⟨run, ⟨hmem, hkey⟩, rfl⟩, howner⟩
    exact ⟨run, hmem, hkey, howner⟩
  · rintro ⟨run, hmem, hkey, howner⟩
    exact ⟨_, ⟨run, ⟨hmem, hkey⟩, rfl⟩, howner⟩

/-- It is enough that the owner's submissions, operations and runs are the same. -/
theorem SameOwners.of_mem
    (hsubmissions : ∀ row, row.ownerUserId = ownerUserId →
      (row ∈ db'.submissions ↔ row ∈ db.submissions))
    (hoperations : ∀ row, db.ownerOf row = some ownerUserId →
      (row ∈ db'.operations ↔ row ∈ db.operations))
    (hruns : ∀ run, db.operationOwner run.operationId = some ownerUserId →
      (run ∈ db'.agentRuns ↔ run ∈ db.agentRuns)) : SameOwners ownerUserId db db' := by
  have howner : ∀ row, db'.ownerOf row = some ownerUserId ↔
      db.ownerOf row = some ownerUserId := by
    intro row
    simp only [ownerOf_eq_some]
    constructor
    · rintro ⟨submission, hmem, hof, hkey⟩
      exact ⟨submission, (hsubmissions submission hof).mp hmem, hof, hkey⟩
    · rintro ⟨submission, hmem, hof, hkey⟩
      exact ⟨submission, (hsubmissions submission hof).mpr hmem, hof, hkey⟩
  have hoperation : ∀ operationId, db'.operationOwner operationId = some ownerUserId ↔
      db.operationOwner operationId = some ownerUserId := by
    intro operationId
    simp only [operationOwner_eq_some, howner]
    constructor
    · rintro ⟨row, hmem, hkey, hof⟩
      exact ⟨row, (hoperations row hof).mp hmem, hkey, hof⟩
    · rintro ⟨row, hmem, hkey, hof⟩
      exact ⟨row, (hoperations row hof).mpr hmem, hkey, hof⟩
  refine ⟨howner, hoperation, fun agentRunId => ?_⟩
  simp only [runOwner_eq_some, hoperation]
  constructor
  · rintro ⟨run, hmem, hkey, hof⟩
    exact ⟨run, (hruns run hof).mp hmem, hkey, hof⟩
  · rintro ⟨run, hmem, hkey, hof⟩
    exact ⟨run, (hruns run hof).mpr hmem, hkey, hof⟩

/-- Rows are compared by what `db` says about them. -/
theorem SameOwned.of_owners (howners : SameOwners ownerUserId db db')
    (hsubmissions : db'.submissionsOwned ownerUserId = db.submissionsOwned ownerUserId)
    (hoperations : (db'.operations.select fun row => db.ownerOf row = some ownerUserId) =
      db.operationsOwned ownerUserId)
    (hevents : (db'.runEvents.select fun row =>
      db.runOwner row.event.agentRunId = some ownerUserId) = db.runEventsOwned ownerUserId)
    (hstates : (db'.controlStates.select fun row =>
      db.runOwner row.agentRunId = some ownerUserId) = db.controlStatesOwned ownerUserId)
    (hrequests : (db'.controlRequests.select fun row =>
      db.operationOwner row.operationId = some ownerUserId) =
        db.controlRequestsOwned ownerUserId)
    (hcredentials : db'.credentialsOwned ownerUserId = db.credentialsOwned ownerUserId) :
    SameOwned ownerUserId db db' where
  submissions := hsubmissions
  operations := by
    simp only [Store.operationsOwned, howners.ownerOf]
    exact hoperations
  runEvents := by
    simp only [Store.runEventsOwned, howners.runOwner]
    exact hevents
  controlStates := by
    simp only [Store.controlStatesOwned, howners.runOwner]
    exact hstates
  controlRequests := by
    simp only [Store.controlRequestsOwned, howners.operationOwner]
    exact hrequests
  credentials := hcredentials

theorem SameOwned.refl (ownerUserId : String) (db : Store) : SameOwned ownerUserId db db :=
  ⟨rfl, rfl, rfl, rfl, rfl, rfl⟩

theorem SameOwned.trans {db₁ : Store} (h : SameOwned ownerUserId db db₁)
    (h' : SameOwned ownerUserId db₁ db') : SameOwned ownerUserId db db' :=
  ⟨h'.submissions.trans h.submissions, h'.operations.trans h.operations,
    h'.runEvents.trans h.runEvents, h'.controlStates.trans h.controlStates,
    h'.controlRequests.trans h.controlRequests, h'.credentials.trans h.credentials⟩

theorem SameOwned.taskIds (h : SameOwned ownerUserId db db') :
    db'.taskIds ownerUserId = db.taskIds ownerUserId := by
  rw [Store.taskIds, Store.taskIds, h.submissions]

theorem SameOwned.privateObjectIds (h : SameOwned ownerUserId db db') :
    db'.privateObjectIds ownerUserId = db.privateObjectIds ownerUserId := by
  rw [Store.privateObjectIds, Store.privateObjectIds, h.taskIds, h.credentials]

/-- `get` and `listEvents` read the owner's operations and events only. -/
theorem SameOwned.get (h : SameOwned ownerUserId db db') (decisionTaskId : String) :
    get decisionTaskId ownerUserId db' = get decisionTaskId ownerUserId db := by
  have hoperationsOf : ∀ s : Store, s.operationsOf decisionTaskId ownerUserId =
      (s.operationsOwned ownerUserId).filter fun row => row.decisionTaskId = decisionTaskId := by
    intro s
    unfold Store.operationsOf Store.operationsOwned Table.select
    rw [List.filter_filter]
  unfold TaskPersistence.get Store.latestOperation
  rw [hoperationsOf, hoperationsOf, h.operations]

theorem SameOwned.listEvents (h : SameOwned ownerUserId db db') (decisionTaskId : String)
    (afterCursor : Option Nat) :
    listEvents decisionTaskId ownerUserId afterCursor db' =
      listEvents decisionTaskId ownerUserId afterCursor db := by
  have hselected : ∀ s : Store, (s.runEvents.select fun row =>
      row.event.decisionTaskId = decisionTaskId &&
        s.runOwner row.event.agentRunId = some ownerUserId &&
        afterCursor.all fun cursor => cursor < row.cursor) =
      (s.runEventsOwned ownerUserId).filter fun row =>
        row.event.decisionTaskId = decisionTaskId &&
          afterCursor.all fun cursor => cursor < row.cursor := by
    intro s
    unfold Store.runEventsOwned Table.select
    rw [List.filter_filter]
    apply List.filter_congr
    intro row _
    rw [Bool.and_right_comm]
  unfold TaskPersistence.listEvents
  rw [hselected, hselected, h.runEvents]

theorem SameOwned.claimable (h : SameOwned ownerUserId db db') (now : Instant) :
    db'.claimableOf ownerUserId now = db.claimableOf ownerUserId now := by
  rw [Store.claimableOf, Store.claimableOf, h.operations]

end Owners

section Steps
variable {db db' : Store} {now : Instant} {actingUserId ownerUserId : String}

theorem submit_sameOwned (hother : actingUserId ≠ ownerUserId)
    {command : ExecuteDecisionTaskCommand} {snapshot : DecisionTaskSnapshot}
    (h : submit env command actingUserId now db = .ok (snapshot, db')) :
    SameOwned ownerUserId db db' := by
  rcases submit_ok h with rfl | hinsert
  · exact .refl _ _
  obtain ⟨submissions, operations, agentRuns, outbox, hsubmissions, hoperations, hruns, -,
    happends, -⟩ := insertSubmission_ok hinsert
  obtain ⟨added, hevents, hadded⟩ := happends.rows
  obtain ⟨_, _, _, _, rfl, -⟩ := happends
  -- neither the operation nor the run existed before
  have hoperation : db.ownerOf (acceptedOperation env command now db) ≠ some ownerUserId := by
    rw [Ne, ownerOf_eq_some]
    rintro ⟨old, hold, -, hkey⟩
    exact Table.key_fresh_of_insert? hsubmissions old hold hkey
  have hunknown : db.operationOwner (env.randomUUID (db.uuidsDrawn + 1)) ≠
      some ownerUserId := by
    rw [Ne, operationOwner_eq_some]
    rintro ⟨old, hold, hkey, -⟩
    exact Table.key_fresh_of_insert? hoperations old hold hkey
  have hfresh : db.runOwner ("agent-run-" ++ env.randomUUID db.uuidsDrawn) ≠
      some ownerUserId := by
    rw [Ne, runOwner_eq_some]
    rintro ⟨old, hold, hkey, -⟩
    exact Table.key_fresh_of_insert? hruns old hold hkey
  refine .of_owners (.of_mem ?_ ?_ ?_) ?_ ?_ ?_ rfl rfl rfl
  · intro row howner
    refine (Table.mem_insert? hsubmissions).trans (or_iff_left ?_)
    rintro rfl
    exact hother howner
  · intro row howner
    refine (Table.mem_insert? hoperations).trans (or_iff_left ?_)
    rintro rfl
    exact hoperation howner
  · intro run howner
    refine (Table.mem_insert? hruns).trans (or_iff_left ?_)
    rintro rfl
    exact hunknown howner
  · exact Table.select_insert? hsubmissions (decide_eq_false hother)
  · exact Table.select_insert? hoperations (decide_eq_false hoperation)
  · refine Table.select_append hevents fun row hrow => decide_eq_false ?_
    have hevent : row.event ∈ added.map RunEventRow.event := List.mem_map.mpr ⟨row, hrow, rfl⟩
    rw [hadded, List.mem_singleton] at hevent
    rw [hevent]
    exact hfresh

theorem requestRuntimeResume_sameOwned (hother : actingUserId ≠ ownerUserId)
    {input : RuntimeResumeRequestInput} (hinput : input.ownerUserId = actingUserId)
    {status : Option RuntimeControlStatus}
    (h : requestRuntimeResume input now db = .ok (status, db')) :
    SameOwned ownerUserId db db' := by
  rcases requestRuntimeResume_ok h with rfl | ⟨operation, hlatest, -, hinsert⟩
  · exact .refl _ _
  obtain ⟨-, controlRequests, hrequests, rfl⟩ := insertControlRequest_ok hinsert
  obtain ⟨hmem, -, howner⟩ := latestOperation_mem hlatest
  refine .of_owners ⟨fun _ => Iff.rfl, fun _ => Iff.rfl, fun _ => Iff.rfl⟩ rfl rfl rfl rfl ?_ rfl
  refine Table.select_insert? hrequests (decide_eq_false ?_)
  change db.operationOwner operation.operationId ≠ some ownerUserId
  rw [operationOwner_of_mem hmem, howner, hinput]
  exact fun heq => hother (Option.some.inj heq)

theorem requestRuntimeCancel_sameOwned (hregistered : Registered db)
    (hother : actingUserId ≠ ownerUserId) {input : RuntimeCancelRequestInput}
    (hinput : input.ownerUserId = actingUserId) {status : Option RuntimeControlStatus}
    (h : requestRuntimeCancel env input now db = .ok (status, db')) :
    SameOwned ownerUserId db db' := by
  rcases requestRuntimeCancel_ok h with rfl |
    ⟨operation, controlRequests, controlStates, hlatest, -, hrequests, ⟨hstates, -⟩, happends⟩
  · exact .refl _ _
  obtain ⟨hmem, -, hof⟩ := latestOperation_mem hlatest
  obtain ⟨added, hevents, hadded⟩ := happends.rows
  obtain ⟨_, _, _, _, rfl, -⟩ := happends
  have howner : db.ownerOf operation ≠ some ownerUserId := by
    rw [hof, hinput]
    exact fun heq => hother (Option.some.inj heq)
  have hrun : db.runOwner operation.agentRunId ≠ some ownerUserId := by
    rw [hregistered.runOwner hmem]
    exact howner
  -- the cancelled row is of another owner before and after
  have hcancelled : ∀ row ∈ db.operations, row.operationId = operation.operationId →
      db.ownerOf row ≠ some ownerUserId := by
    intro row hrow hkey
    rw [Table.eq_of_key_eq hrow hmem hkey]
    exact howner
  have hoperations : db.operations.SameElsewhere
      (db.operations.update operation.operationId (cancelledOperation now))
      operation.operationId := .update
  have hafter : ∀ row ∈ db.operations.update operation.operationId (cancelledOperation now),
      row.operationId = operation.operationId → db.ownerOf row ≠ some ownerUserId := by
    intro row hrow hkey
    obtain ⟨old, hold, rfl⟩ := Table.mem_update.mp hrow
    split at hkey
    · rename_i hsame
      rw [if_pos hsame]
      exact hcancelled old hold hsame
    · exact absurd hkey ‹_›
  have hothers : ∀ row : Operation, row.operationId ≠ operation.operationId →
      (row ∈ db.operations.update operation.operationId (cancelledOperation now) ↔
        row ∈ db.operations) := fun _ hkey => Table.mem_update_of_ne hkey
  refine .of_owners (.of_mem (fun _ _ => Iff.rfl) ?_ fun _ _ => Iff.rfl) rfl ?_ ?_ ?_ ?_ rfl
  · intro row hrow
    by_cases hkey : row.operationId = operation.operationId
    · exact ⟨fun hin => absurd hrow (hafter row hin hkey),
        fun hin => absurd hrow (hcancelled row hin hkey)⟩
    · exact hothers row hkey
  · exact hoperations.select_eq (fun row hrow hkey => decide_eq_false (hcancelled row hrow hkey))
      fun row hrow hkey => decide_eq_false (hafter row hrow hkey)
  · refine Table.select_append hevents fun row hrow => decide_eq_false ?_
    have hevent : row.event ∈ added.map RunEventRow.event := List.mem_map.mpr ⟨row, hrow, rfl⟩
    rw [hadded, List.mem_singleton] at hevent
    rw [hevent]
    exact hrun
  · exact hstates.select_eq (fun row _ hkey => decide_eq_false (hkey ▸ hrun))
      fun row _ hkey => decide_eq_false (hkey ▸ hrun)
  · refine Table.select_insert? hrequests (decide_eq_false ?_)
    change db.operationOwner operation.operationId ≠ some ownerUserId
    rw [operationOwner_of_mem hmem]
    exact howner

theorem purge_sameOwned (hregistered : Registered db) (hother : actingUserId ≠ ownerUserId) :
    SameOwned ownerUserId db (db.erased env actingUserId) := by
  have hoperation : ∀ operationId, db.operationOwner operationId = some ownerUserId →
      operationId ∉ (db.purgeScope actingUserId).operationIds := by
    intro operationId howner hin
    rw [mem_scope_operationIds, howner, Option.some.injEq] at hin
    exact hother hin.symm
  have hrun : ∀ agentRunId, db.runOwner agentRunId = some ownerUserId →
      agentRunId ∉ (db.purgeScope actingUserId).agentRunIds := by
    intro agentRunId howner hin
    have hscoped := hregistered.runOwner_of_mem_scope hin
    rw [howner, Option.some.injEq] at hscoped
    exact hother hscoped.symm
  have hsubmission : ∀ row : Submission, row.ownerUserId = ownerUserId →
      row.ownerUserId ≠ actingUserId := fun row howner heq => hother (heq.symm.trans howner)
  have hkept : ∀ row ∈ db.operations, db.ownerOf row = some ownerUserId →
      row.operationId ∉ (db.purgeScope actingUserId).operationIds := by
    intro row hrow howner
    exact hoperation _ (operationOwner_of_mem hrow ▸ howner)
  refine .of_owners (.of_mem ?_ ?_ ?_) ?_ ?_ ?_ ?_ ?_ ?_
  · intro row howner
    exact Table.mem_deleteWhere.trans
      (and_iff_left (decide_eq_false (hsubmission row howner)))
  · intro row howner
    refine Table.mem_deleteWhere.trans ⟨And.left, fun hrow => ⟨hrow, ?_⟩⟩
    exact decide_eq_false (hkept row hrow howner)
  · intro run howner
    exact Table.mem_deleteWhere.trans (and_iff_left (decide_eq_false (hoperation _ howner)))
  · refine Table.select_deleteWhere fun row _ howner => decide_eq_false ?_
    exact hsubmission row (of_decide_eq_true howner)
  · refine Table.select_deleteWhere fun row hrow howner => decide_eq_false ?_
    exact hkept row hrow (of_decide_eq_true howner)
  · refine Table.select_deleteWhere fun row _ howner => decide_eq_false ?_
    exact hrun _ (of_decide_eq_true howner)
  · refine Table.select_deleteWhere fun row _ howner => decide_eq_false ?_
    exact hrun _ (of_decide_eq_true howner)
  · refine Table.select_deleteWhere fun row _ howner => decide_eq_false ?_
    exact hoperation _ (of_decide_eq_true howner)
  · refine Table.select_deleteWhere fun row _ howner => decide_eq_false ?_
    exact fun heq => hother (heq.symm.trans (of_decide_eq_true howner))

/-- The tables that are not told apart by owner do not change. -/
structure SameShared (db db' : Store) : Prop where
  evidenceIndex : db'.evidenceIndex = db.evidenceIndex
  auditRecords : db'.auditRecords = db.auditRecords

theorem submit_sameShared {command : ExecuteDecisionTaskCommand}
    {snapshot : DecisionTaskSnapshot}
    (h : submit env command actingUserId now db = .ok (snapshot, db')) : SameShared db db' := by
  rcases submit_ok h with rfl | hinsert
  · exact ⟨rfl, rfl⟩
  obtain ⟨_, _, _, _, -, -, -, -, happends, -⟩ := insertSubmission_ok hinsert
  obtain ⟨_, _, _, _, rfl, -⟩ := happends
  exact ⟨rfl, rfl⟩

theorem requestRuntimeResume_sameShared {input : RuntimeResumeRequestInput}
    {status : Option RuntimeControlStatus}
    (h : requestRuntimeResume input now db = .ok (status, db')) : SameShared db db' := by
  rcases requestRuntimeResume_ok h with rfl | ⟨operation, -, -, hinsert⟩
  · exact ⟨rfl, rfl⟩
  obtain ⟨-, _, -, rfl⟩ := insertControlRequest_ok hinsert
  exact ⟨rfl, rfl⟩

theorem requestRuntimeCancel_sameShared {input : RuntimeCancelRequestInput}
    {status : Option RuntimeControlStatus}
    (h : requestRuntimeCancel env input now db = .ok (status, db')) : SameShared db db' := by
  rcases requestRuntimeCancel_ok h with rfl | ⟨_, _, _, -, -, -, -, happends⟩
  · exact ⟨rfl, rfl⟩
  obtain ⟨_, _, _, _, rfl, -⟩ := happends
  exact ⟨rfl, rfl⟩

theorem apart_iff : db.apart actingUserId ownerUserId = true ↔
    (∀ row ∈ db.evidenceIndex, row.decisionTaskId ∈ db.taskIds ownerUserId →
      row.decisionTaskId ∉ db.taskIds actingUserId) ∧
    ∀ record ∈ db.auditRecords, record.actorUserId ≠ actingUserId →
      record.objectId ∈ db.privateObjectIds ownerUserId →
        record.objectId ∉ db.privateObjectIds actingUserId := by
  simp only [Store.apart, Bool.and_eq_true, List.all_eq_true, Bool.not_eq_true',
    Bool.and_eq_false_imp, decide_eq_true_eq, decide_eq_false_iff_not, Bool.or_eq_true,
    or_iff_not_imp_left]
  constructor
  · rintro ⟨hevidence, haudit⟩
    exact ⟨fun row hrow hin hacting => hevidence row hrow hacting hin,
      fun record hrecord hactor hin hacting => haudit record hrecord hactor hacting hin⟩
  · rintro ⟨hevidence, haudit⟩
    exact ⟨fun row hrow hacting hin => hevidence row hrow hin hacting,
      fun record hrecord hactor hacting hin => haudit record hrecord hactor hin hacting⟩

/-- What a step of another owner leaves of the shared tables. -/
structure SharedKept (actingUserId ownerUserId : String) (db db' : Store) : Prop where
  evidenceIndex : db'.evidenceOwned ownerUserId = db.evidenceOwned ownerUserId
  auditRecords : ∀ record ∈ db.auditRecords, record.actorUserId ≠ actingUserId →
    record.objectId ∈ db.privateObjectIds ownerUserId → record ∈ db'.auditRecords

theorem SharedKept.of_same (hshared : SameShared db db') (howned : SameOwned ownerUserId db db') :
    SharedKept actingUserId ownerUserId db db' where
  evidenceIndex := by
    rw [Store.evidenceOwned, Store.evidenceOwned, howned.taskIds, hshared.evidenceIndex]
  auditRecords := by
    rw [hshared.auditRecords]
    exact fun record hrecord _ _ => hrecord

theorem SharedKept.erased (hapart : db.apart actingUserId ownerUserId = true)
    (howned : SameOwned ownerUserId db (db.erased env actingUserId)) :
    SharedKept actingUserId ownerUserId db (db.erased env actingUserId) := by
  obtain ⟨hevidence, haudit⟩ := apart_iff.mp hapart
  constructor
  · rw [Store.evidenceOwned, Store.evidenceOwned, howned.taskIds]
    refine Table.select_deleteWhere fun row hrow hin => decide_eq_false ?_
    exact hevidence row hrow (of_decide_eq_true hin)
  · intro record hrecord hactor hin
    exact mem_pseudonymiseAudit hrecord hactor (haudit record hrecord hactor hin)

/-- One step of another owner that keeps apart. -/
theorem step_isolated (hregistered : Registered db) (hother : actingUserId ≠ ownerUserId)
    {label : Instant × Action} {reply : Reply} (hacts : label.2.actsFor actingUserId = true)
    (hapart : purgesApart env actingUserId ownerUserId db label = true)
    (h : step env db label = some (reply, db')) :
    SameOwned ownerUserId db db' ∧ SharedKept actingUserId ownerUserId db db' := by
  obtain ⟨now, action⟩ := label
  have hunchanged : SameOwned ownerUserId db db ∧ SharedKept actingUserId ownerUserId db db :=
    ⟨.refl _ _, .of_same ⟨rfl, rfl⟩ (.refl _ _)⟩
  rcases step_cases h with hperform | ⟨-, rfl⟩
  swap
  · exact hunchanged
  cases action
  case submit command actor =>
    obtain rfl : actor = actingUserId := of_decide_eq_true hacts
    simp only [perform, bind_eq_ok] at hperform
    obtain ⟨⟨snapshot, _⟩, hsubmit, hperform⟩ := hperform
    cases hperform
    have howned := submit_sameOwned hother hsubmit
    exact ⟨howned, .of_same (submit_sameShared hsubmit) howned⟩
  case requestRuntimeResume input =>
    simp only [perform, bind_eq_ok] at hperform
    obtain ⟨⟨status, _⟩, hrequest, hperform⟩ := hperform
    cases hperform
    have howned := requestRuntimeResume_sameOwned hother (of_decide_eq_true hacts) hrequest
    exact ⟨howned, .of_same (requestRuntimeResume_sameShared hrequest) howned⟩
  case requestRuntimeCancel input =>
    simp only [perform, bind_eq_ok] at hperform
    obtain ⟨⟨status, _⟩, hrequest, hperform⟩ := hperform
    cases hperform
    have howned :=
      requestRuntimeCancel_sameOwned hregistered hother (of_decide_eq_true hacts) hrequest
    exact ⟨howned, .of_same (requestRuntimeCancel_sameShared hrequest) howned⟩
  case purgePrivateDataForOwner actor =>
    obtain rfl : actor = actingUserId := of_decide_eq_true hacts
    have hkept : db.apart actor ownerUserId = true := by
      rw [purgesApart, hperform] at hapart
      exact hapart
    simp only [perform, bind_eq_ok] at hperform
    obtain ⟨⟨result, _⟩, hpurge, hperform⟩ := hperform
    cases hperform
    obtain rfl := purgePrivateDataForOwner_ok hpurge
    have howned : SameOwned ownerUserId db (db.erased env actor) :=
      purge_sameOwned hregistered hother
    exact ⟨howned, .erased hkept howned⟩
  all_goals cases hacts

/-- What has been kept since `db`. -/
structure Isolated (actingUserId ownerUserId : String) (db db' : Store) : Prop where
  registered : Registered db'
  owned : SameOwned ownerUserId db db'
  shared : SharedKept actingUserId ownerUserId db db'

theorem Isolated.step (hother : actingUserId ≠ ownerUserId) {start : Store}
    (hs : Isolated actingUserId ownerUserId start db) {label : Instant × Action} {reply : Reply}
    (hacts : label.2.actsFor actingUserId = true)
    (hapart : purgesApart env actingUserId ownerUserId db label = true)
    (h : step env db label = some (reply, db')) :
    Isolated actingUserId ownerUserId start db' := by
  obtain ⟨howned, hshared⟩ := step_isolated hs.registered hother hacts hapart h
  refine ⟨hs.registered.change (step_change h), hs.owned.trans howned,
    hshared.evidenceIndex.trans hs.shared.evidenceIndex, ?_⟩
  intro record hrecord hactor hin
  refine hshared.auditRecords record (hs.shared.auditRecords record hrecord hactor hin) hactor ?_
  rw [hs.owned.privateObjectIds]
  exact hin

theorem Isolated.undisturbed (h : Isolated actingUserId ownerUserId db db') :
    Undisturbed actingUserId ownerUserId db db' :=
  ⟨h.owned.get, h.owned.listEvents, h.shared.evidenceIndex, h.owned.controlStates,
    h.owned.controlRequests, h.owned.claimable, h.shared.auditRecords⟩

/-- From any reachable state, whatever an owner does disturbs no other owner, as long as
their purges find the two apart. -/
theorem owners_isolated {pre es : List (Entry Store (Instant × Action) Reply)}
    (hother : actingUserId ≠ ownerUserId) (hpre : Run (step env) Store.empty pre db)
    (h : Run (step env) db es db')
    (hacts : ∀ e ∈ es, e.label.2.actsFor actingUserId = true)
    (hapart : ∀ e ∈ es, purgesApart env actingUserId ownerUserId e.before e.label = true) :
    Undisturbed actingUserId ownerUserId db db' := by
  have hguard : Guarded (fun s label => label.2.actsFor actingUserId = true ∧
      purgesApart env actingUserId ownerUserId s label = true) es :=
    fun e he => ⟨hacts e he, hapart e he⟩
  have hstart : Isolated actingUserId ownerUserId db db :=
    ⟨registered_of_run hpre, .refl _ _, .of_same ⟨rfl, rfl⟩ (.refl _ _)⟩
  refine (h.invariant ?_ hguard hstart).undisturbed
  intro s t a r hs hG hstep
  exact hs.step hother hG.1 hG.2 hstep

end Steps

section Sample

/-- Two owners submit under one task id; the second has evidence. -/
def sharedTaskSchedule : List (Instant × Action) :=
  [(0, .submit (sampleCommand "request") "owner"),
   (1, .submit (sampleCommand "other-request") "other"),
   (2, .saveEvidence ⟨"evidence", "task", "payload"⟩)]

set_option maxRecDepth 4000 in
/-- The purge of the first owner deletes the evidence of the second. -/
theorem shared_task_disturbed :
    ∃ pre es db db', Run (step sampleEnv) Store.empty pre db ∧
      Run (step sampleEnv) db es db' ∧ es.length = 1 ∧
      (∀ e ∈ es, e.label.2.actsFor "owner" = true) ∧ ¬ Undisturbed "owner" "other" db db' := by
  have hexec : (exec (step sampleEnv) Store.empty
      (sharedTaskSchedule ++ [(3, .purgePrivateDataForOwner "owner")])).any
      (cutAt 3 fun _ e post => post.isEmpty && e.label.2.actsFor "owner" &&
        decide (e.after.evidenceOwned "other" ≠ e.before.evidenceOwned "other")) = true := by
    decide +kernel
  obtain ⟨pre, e, post, db, hrun, hcheck⟩ := exists_cut_of_exec hexec
  rw [Bool.and_eq_true, Bool.and_eq_true, List.isEmpty_iff, decide_eq_true_eq] at hcheck
  obtain ⟨⟨rfl, hacts⟩, hchanged⟩ := hcheck
  obtain ⟨before, hpre, hrest⟩ := hrun.split
  refine ⟨pre, [e], before, db, hpre, hrest, rfl, ?_, fun hsame => ?_⟩
  · intro f hf
    rw [List.mem_singleton.mp hf]
    exact hacts
  · cases hrest with
    | cons hstep hnil =>
      cases hnil
      exact hchanged hsame.evidenceIndex

set_option maxRecDepth 4000 in
/-- Without the evidence the first owner cancels, is purged and comes back unnoticed. -/
theorem owners_isolated_shared_task :
    ∃ pre es db db', Run (step sampleEnv) Store.empty pre db ∧
      Run (step sampleEnv) db es db' ∧ es.length = 3 ∧ db'.submissions.rows.length = 2 ∧
      Undisturbed "owner" "other" db db' := by
  have hexec : (exec (step sampleEnv) Store.empty
      (sharedTaskSchedule.take 2 ++
        [(3, .requestRuntimeCancel ⟨"control", "task", "owner", "cancel", "correlation"⟩),
         (4, .purgePrivateDataForOwner "owner"),
         (5, .submit (sampleCommand "request") "owner")])).any (fun result =>
      decide (result.1.length = 5 ∧ result.2.submissions.rows.length = 2) &&
        (result.1.drop 2).all fun e => e.label.2.actsFor "owner" &&
          purgesApart sampleEnv "owner" "other" e.before e.label) = true := by
    decide +kernel
  obtain ⟨es, db', hrun, hcheck⟩ := exists_run_of_exec hexec
  rw [Bool.and_eq_true, decide_eq_true_eq, List.all_eq_true] at hcheck
  obtain ⟨⟨hlength, hrows⟩, hguard⟩ := hcheck
  rw [← List.take_append_drop 2 es] at hrun
  obtain ⟨db, hpre, hrest⟩ := hrun.split
  have hacts := fun e he => (Bool.and_eq_true _ _).mp (hguard e he)
  refine ⟨es.take 2, es.drop 2, db, db', hpre, hrest, by simp [hlength], hrows, ?_⟩
  exact owners_isolated (by decide) hpre hrest (fun e he => (hacts e he).1)
    fun e he => (hacts e he).2

end Sample

end ChoiceMind.TaskPersistence
