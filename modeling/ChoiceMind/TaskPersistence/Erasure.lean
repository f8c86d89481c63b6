import ChoiceMind.TaskPersistence.Ownership

/-!
# When a purge erases an owner

A purge collects the current runs of the owner's operations. An earlier run keeps its
events, and they keep the run, so an owner with a retried operation cannot be purged.
-/

namespace ChoiceMind.TaskPersistence

set_option autoImplicit false

open Contracts Transition

variable {env : Environment}

/-- No row of `db'` belongs to the owner, by what the rows of `db` belong to. -/
structure NothingLeft (db : Store) (ownerUserId : String) (db' : Store) : Prop where
  submissions : ∀ row ∈ db'.submissions, row.ownerUserId ≠ ownerUserId
  operations : ∀ row ∈ db'.operations, db.ownerOf row ≠ some ownerUserId
  agentRuns : ∀ row ∈ db'.agentRuns, db.operationOwner row.operationId ≠ some ownerUserId
  outbox : ∀ row ∈ db'.outbox, db.operationOwner row.operationId ≠ some ownerUserId
  runEvents : ∀ row ∈ db'.runEvents, db.runOwner row.event.agentRunId ≠ some ownerUserId
  notifications : ∀ row ∈ db'.notifications, ∀ event ∈ db.runEvents,
    event.cursor = row.eventCursor → db.runOwner event.event.agentRunId ≠ some ownerUserId
  controlRequests : ∀ row ∈ db'.controlRequests,
    db.operationOwner row.operationId ≠ some ownerUserId
  controlStates : ∀ row ∈ db'.controlStates, db.runOwner row.agentRunId ≠ some ownerUserId
  recoveryFacts : ∀ row ∈ db'.recoveryFacts, db.runOwner row.agentRunId ≠ some ownerUserId
  effectReceipts : ∀ row ∈ db'.effectReceipts, ∀ fact ∈ db.recoveryFacts,
    fact.snapshotId = row.snapshotId → db.runOwner fact.agentRunId ≠ some ownerUserId
  effectResultBindings : ∀ row ∈ db'.effectResultBindings,
    db.runOwner row.identity.agentRunId ≠ some ownerUserId
  evidenceIndex : ∀ row ∈ db'.evidenceIndex, ∀ submission ∈ db.submissions,
    submission.ownerUserId = ownerUserId → row.decisionTaskId ≠ submission.decisionTaskId
  egressRecords : ∀ row ∈ db'.egressRecords, row.userId ≠ ownerUserId
  credentials : ∀ row ∈ db'.credentials, row.key.ownerUserId ≠ ownerUserId
  /-- a raw snapshot of the owner is deleted exactly when no fact refers to it -/
  snapshotObjects : ∀ object ∈ db.snapshotObjects,
    (∃ fact ∈ db.recoveryFacts, db.runOwner fact.agentRunId = some ownerUserId ∧
      fact.rawSnapshotDigest = object.digest) →
    (object ∉ db'.snapshotObjects ↔
      ∀ fact ∈ db'.recoveryFacts, fact.rawSnapshotDigest ≠ object.digest)
  effectResultObjects : ∀ object ∈ db.effectResultObjects,
    (∃ binding ∈ db.effectResultBindings,
      db.runOwner binding.identity.agentRunId = some ownerUserId ∧
      binding.digest = object.digest) →
    (object ∉ db'.effectResultObjects ↔
      ∀ binding ∈ db'.effectResultBindings, binding.digest ≠ object.digest)

/-- The purge commits and leaves nothing of the owner. -/
def PurgeErases (env : Environment) (ownerUserId : String) (db : Store) : Prop :=
  ∃ result db', purgePrivateDataForOwner env ownerUserId db = .ok (result, db') ∧
    NothingLeft db ownerUserId db'

/-- No operation of the owner was retried, and nobody else's control rows refer to the
recovery facts of the owner's runs. -/
structure Erasable (ownerUserId : String) (db : Store) : Prop where
  agentRuns : ∀ run ∈ db.agentRuns, db.operationOwner run.operationId = some ownerUserId →
    ∃ row ∈ db.operations, row.operationId = run.operationId ∧ row.agentRunId = run.agentRunId
  controlStates : ∀ fact ∈ db.recoveryFacts, db.runOwner fact.agentRunId = some ownerUserId →
    ∀ row ∈ db.controlStates, row.snapshotId = some fact.snapshotId →
      db.runOwner row.agentRunId = some ownerUserId
  controlRequests : ∀ fact ∈ db.recoveryFacts, db.runOwner fact.agentRunId = some ownerUserId →
    ∀ row ∈ db.controlRequests, row.action.runtimeSnapshotId = some fact.snapshotId →
      db.operationOwner row.operationId = some ownerUserId

section Scope
variable {db : Store} {ownerUserId : String}

/-- Where runs are current, a purge collects all runs of its owner. -/
theorem mem_scope_of_runOwner (hcurrent : ∀ run ∈ db.agentRuns,
      db.operationOwner run.operationId = some ownerUserId → ∃ row ∈ db.operations,
        row.operationId = run.operationId ∧ row.agentRunId = run.agentRunId)
    {agentRunId : String} (h : db.runOwner agentRunId = some ownerUserId) :
    agentRunId ∈ (db.purgeScope ownerUserId).agentRunIds := by
  rw [runOwner_eq, Option.bind_eq_some_iff] at h
  obtain ⟨operationId, hrun, howner⟩ := h
  obtain ⟨run, hfound, rfl⟩ := Option.map_eq_some_iff.mp hrun
  obtain ⟨hmem, rfl⟩ := Table.find?_eq_some.mp hfound
  obtain ⟨row, hrow, hkey, hsame⟩ := hcurrent run hmem howner
  rw [← hkey, operationOwner_of_mem hrow] at howner
  exact mem_scope_agentRunIds.mpr ⟨row, hrow, howner, hsame⟩

theorem Erasable.mem_scope_iff (h : Erasable ownerUserId db) (hregistered : Registered db)
    {agentRunId : String} :
    agentRunId ∈ (db.purgeScope ownerUserId).agentRunIds ↔
      db.runOwner agentRunId = some ownerUserId :=
  ⟨hregistered.runOwner_of_mem_scope, mem_scope_of_runOwner h.agentRuns⟩

/-- With its foreign keys in order a purge goes through. -/
theorem purge_commits (h : Erasable ownerUserId db) (hregistered : Registered db) :
    ∃ result, purgePrivateDataForOwner env ownerUserId db =
      .ok (result, db.erased env ownerUserId) := by
  simp only [purgePrivateDataForOwner, bind_eq_ok, deleteRunEvents_eq_ok,
    deleteRecoveryFacts_eq_ok, deleteAgentRuns_eq_ok, deleteOperations_eq_ok,
    deleteSubmissions_eq_ok]
  refine ⟨_, _, ⟨?_, rfl⟩, _, ⟨?_, rfl⟩, _, ⟨?_, rfl⟩, _, ⟨?_, rfl⟩, _, ⟨?_, rfl⟩, rfl⟩
  · -- the notifications of the events are gone
    intro row hrow hin child hchild hcursor
    have hkept := (Table.mem_deleteWhere.mp hchild).2
    rw [decide_eq_false_iff_not, hcursor] at hkept
    exact hkept (mem_scope_eventCursors.mpr ⟨row, hrow, hin, rfl⟩)
  · -- receipts of the facts are gone, and so are all control rows that refer to them
    intro fact hfact hin
    obtain ⟨fact', hfact', hrun, hsame⟩ := mem_scope_snapshotIds.mp hin
    obtain rfl := Table.eq_of_key_eq hfact' hfact hsame
    have howner := (h.mem_scope_iff hregistered).mp hrun
    refine ⟨?_, ?_, ?_⟩
    · intro child hchild hsnapshot
      have hkept := (Table.mem_deleteWhere.mp hchild).2
      rw [decide_eq_false_iff_not, hsnapshot] at hkept
      exact hkept hin
    · intro child hchild hsnapshot
      have hkept : child ∈ db.controlStates ∧ _ := Table.mem_deleteWhere.mp hchild
      rw [decide_eq_false_iff_not, h.mem_scope_iff hregistered] at hkept
      exact hkept.2 (h.controlStates _ hfact howner child hkept.1 hsnapshot)
    · intro child hchild hsnapshot
      have hkept : child ∈ db.controlRequests ∧ _ := Table.mem_deleteWhere.mp hchild
      rw [decide_eq_false_iff_not, mem_scope_operationIds] at hkept
      exact hkept.2 (h.controlRequests _ hfact howner child hkept.1 hsnapshot)
  · intro run (hrun : run ∈ db.agentRuns) hin
    rw [mem_scope_operationIds] at hin
    have howner : db.runOwner run.agentRunId = some ownerUserId := by
      rw [runOwner_eq, runOperation_of_mem hrun]
      exact hin
    constructor
    · intro child hchild hof
      have hkept := (Table.mem_deleteWhere.mp hchild).2
      rw [decide_eq_false_iff_not, h.mem_scope_iff hregistered, hof] at hkept
      exact hkept howner
    · intro child hchild hof
      have hkept : child ∈ db.controlRequests ∧ _ := Table.mem_deleteWhere.mp hchild
      rw [decide_eq_false_iff_not, mem_scope_operationIds] at hkept
      have hregister := hregistered.requests child hkept.1
      rw [hof, runOperation_of_mem hrun, Option.some.injEq] at hregister
      exact hkept.2 (hregister ▸ hin)
  · intro row hrow hin
    constructor
    · intro child hchild hof
      have hkept := (Table.mem_deleteWhere.mp hchild).2
      rw [decide_eq_false_iff_not, hof] at hkept
      exact hkept hin
    · intro child hchild hof
      have hkept := (Table.mem_deleteWhere.mp hchild).2
      rw [decide_eq_false_iff_not, hof] at hkept
      exact hkept hin
  · intro row hrow howner child hchild hof
    have hkept : child ∈ db.operations ∧ _ := Table.mem_deleteWhere.mp hchild
    rw [decide_eq_false_iff_not, mem_scope_operationIds, operationOwner_of_mem hkept.1,
      ownerOf_eq_some] at hkept
    exact hkept.2 ⟨row, hrow, howner, hof.symm⟩

/-- An object of the scope is deleted exactly when nothing refers to it. -/
theorem mem_deleteUnreferenced_iff {ρ : Type} {objects : Table ContentObject.digest}
    {digests : List String} {children : List ρ} {digest : ρ → String} {object : ContentObject}
    (hobject : object ∈ objects) (hin : object.digest ∈ digests) :
    (object ∉ objects.deleteWhere fun row =>
      row.digest ∈ digests && !children.any fun child => digest child = row.digest) ↔
      ∀ child ∈ children, digest child ≠ object.digest := by
  rw [Table.mem_deleteWhere, and_iff_right hobject, decide_eq_true hin, Bool.true_and,
    Bool.not_eq_false', Bool.not_eq_true, List.any_eq_false]
  simp only [decide_eq_true_eq]

theorem nothingLeft_erased (h : Erasable ownerUserId db) (hregistered : Registered db) :
    NothingLeft db ownerUserId (db.erased env ownerUserId) := by
  have hscope : ∀ {run : String}, run ∈ (db.purgeScope ownerUserId).agentRunIds ↔
      db.runOwner run = some ownerUserId := h.mem_scope_iff hregistered
  constructor
  case submissions =>
    intro row hrow howner
    exact (decide_eq_false_iff_not.mp (Table.mem_deleteWhere.mp hrow).2) howner
  case operations =>
    intro row hrow howner
    have hkept : row ∈ db.operations ∧ _ := Table.mem_deleteWhere.mp hrow
    rw [decide_eq_false_iff_not, mem_scope_operationIds, operationOwner_of_mem hkept.1] at hkept
    exact hkept.2 howner
  case agentRuns =>
    intro row hrow howner
    have hkept := decide_eq_false_iff_not.mp (Table.mem_deleteWhere.mp hrow).2
    exact hkept (mem_scope_operationIds.mpr howner)
  case outbox =>
    intro row hrow howner
    have hkept := decide_eq_false_iff_not.mp (Table.mem_deleteWhere.mp hrow).2
    exact hkept (mem_scope_operationIds.mpr howner)
  case runEvents =>
    intro row hrow howner
    have hkept := decide_eq_false_iff_not.mp (Table.mem_deleteWhere.mp hrow).2
    exact hkept (hscope.mpr howner)
  case notifications =>
    intro row hrow event hevent hcursor howner
    have hkept := decide_eq_false_iff_not.mp (Table.mem_deleteWhere.mp hrow).2
    exact hkept (mem_scope_eventCursors.mpr ⟨event, hevent, hscope.mpr howner, hcursor⟩)
  case controlRequests =>
    intro row hrow howner
    have hkept := decide_eq_false_iff_not.mp (Table.mem_deleteWhere.mp hrow).2
    exact hkept (mem_scope_operationIds.mpr howner)
  case controlStates =>
    intro row hrow howner
    have hkept := decide_eq_false_iff_not.mp (Table.mem_deleteWhere.mp hrow).2
    exact hkept (hscope.mpr howner)
  case recoveryFacts =>
    intro row hrow howner
    have hkept : row ∈ db.recoveryFacts ∧ _ := Table.mem_deleteWhere.mp hrow
    rw [decide_eq_false_iff_not] at hkept
    exact hkept.2 (mem_scope_snapshotIds.mpr ⟨row, hkept.1, hscope.mpr howner, rfl⟩)
  case effectReceipts =>
    intro row hrow fact hfact hsnapshot howner
    have hkept := decide_eq_false_iff_not.mp (Table.mem_deleteWhere.mp hrow).2
    exact hkept (mem_scope_snapshotIds.mpr ⟨fact, hfact, hscope.mpr howner, hsnapshot⟩)
  case effectResultBindings =>
    intro row hrow howner
    have hkept := decide_eq_false_iff_not.mp (Table.mem_deleteWhere.mp hrow).2
    exact hkept (hscope.mpr howner)
  case evidenceIndex =>
    intro row hrow submission hsubmission howner htask
    have hkept := decide_eq_false_iff_not.mp (Table.mem_deleteWhere.mp hrow).2
    refine hkept (List.mem_map.mpr ⟨submission, ?_, htask.symm⟩)
    exact Table.mem_select.mpr ⟨hsubmission, decide_eq_true howner⟩
  case egressRecords =>
    intro row hrow howner
    exact (decide_eq_false_iff_not.mp (Table.mem_deleteWhere.mp hrow).2) howner
  case credentials =>
    intro row hrow howner
    exact (decide_eq_false_iff_not.mp (Table.mem_deleteWhere.mp hrow).2) howner
  case snapshotObjects =>
    rintro object hobject ⟨fact, hfact, howner, hdigest⟩
    exact mem_deleteUnreferenced_iff hobject
      (mem_scope_snapshotDigests.mpr ⟨fact, hfact, hscope.mpr howner, hdigest⟩)
  case effectResultObjects =>
    rintro object hobject ⟨binding, hbinding, howner, hdigest⟩
    exact mem_deleteUnreferenced_iff hobject
      (mem_scope_effectResultDigests.mpr ⟨binding, hbinding, hscope.mpr howner, hdigest⟩)

/-- The constraints that a committed purge has met. -/
theorem erasable_of_commit (hregistered : Registered db) {result : PurgeResult} {db' : Store}
    (h : purgePrivateDataForOwner env ownerUserId db = .ok (result, db')) :
    Erasable ownerUserId db := by
  simp only [purgePrivateDataForOwner, bind_eq_ok, deleteRunEvents_eq_ok,
    deleteRecoveryFacts_eq_ok, deleteAgentRuns_eq_ok] at h
  obtain ⟨_, ⟨-, rfl⟩, _, ⟨hfacts, rfl⟩, _, ⟨hruns, -⟩, -⟩ := h
  have hcurrent : ∀ run ∈ db.agentRuns, db.operationOwner run.operationId = some ownerUserId →
      ∃ row ∈ db.operations, row.operationId = run.operationId ∧
        row.agentRunId = run.agentRunId := by
    intro run hrun howner
    -- its events were deleted, so it is the current run of some operation, its own
    obtain ⟨event, hevent, hof⟩ := hregistered.logged run hrun
    obtain ⟨stored, hstored, rfl⟩ := List.mem_map.mp hevent
    have hin : run.agentRunId ∈ (db.purgeScope ownerUserId).agentRunIds := by
      by_contra hout
      refine (hruns run hrun (mem_scope_operationIds.mpr howner)).1 stored ?_ hof
      rw [Table.mem_deleteWhere, decide_eq_false_iff_not, hof]
      exact ⟨hstored, hout⟩
    obtain ⟨row, hrow, -, hsame⟩ := mem_scope_agentRunIds.mp hin
    have hregister := hregistered.operations row hrow
    rw [hsame, runOperation_of_mem hrun, Option.some.injEq] at hregister
    exact ⟨row, hrow, hregister.symm, hsame⟩
  refine ⟨hcurrent, ?_, ?_⟩
  · intro fact hfact howner row hrow hsnapshot
    have hin := mem_scope_of_runOwner hcurrent howner
    have hfree := hfacts fact hfact (mem_scope_snapshotIds.mpr ⟨fact, hfact, hin, rfl⟩)
    by_contra hother
    refine hfree.2.1 row ?_ hsnapshot
    rw [deleteUnreferenced, Table.mem_deleteWhere, decide_eq_false_iff_not]
    exact ⟨hrow, fun hin => hother (hregistered.runOwner_of_mem_scope hin)⟩
  · intro fact hfact howner row hrow hsnapshot
    have hin := mem_scope_of_runOwner hcurrent howner
    have hfree := hfacts fact hfact (mem_scope_snapshotIds.mpr ⟨fact, hfact, hin, rfl⟩)
    by_contra hother
    refine hfree.2.2 row ?_ hsnapshot
    rw [deleteUnreferenced, Table.mem_deleteWhere, decide_eq_false_iff_not]
    exact ⟨hrow, fun hin => hother (mem_scope_operationIds.mp hin)⟩

/-- In every reachable state a purge erases its owner exactly when it is erasable. -/
theorem purge_erases_iff {es : List (Entry Store (Instant × Action) Reply)}
    (h : Run (step env) Store.empty es db) (ownerUserId : String) :
    PurgeErases env ownerUserId db ↔ Erasable ownerUserId db := by
  have hregistered := registered_of_run h
  constructor
  · rintro ⟨result, db', hcommit, -⟩
    exact erasable_of_commit hregistered hcommit
  · intro herasable
    obtain ⟨result, hcommit⟩ := purge_commits herasable hregistered
    exact ⟨result, _, hcommit, nothingLeft_erased herasable hregistered⟩

end Scope

section Sample

instance (ownerUserId : String) (db : Store) : Decidable (Erasable ownerUserId db) :=
  decidable_of_iff
    ((∀ run ∈ db.agentRuns, db.operationOwner run.operationId = some ownerUserId →
        ∃ row ∈ db.operations, row.operationId = run.operationId ∧
          row.agentRunId = run.agentRunId) ∧
      (∀ fact ∈ db.recoveryFacts, db.runOwner fact.agentRunId = some ownerUserId →
        ∀ row ∈ db.controlStates, row.snapshotId = some fact.snapshotId →
          db.runOwner row.agentRunId = some ownerUserId) ∧
      ∀ fact ∈ db.recoveryFacts, db.runOwner fact.agentRunId = some ownerUserId →
        ∀ row ∈ db.controlRequests, row.action.runtimeSnapshotId = some fact.snapshotId →
          db.operationOwner row.operationId = some ownerUserId)
    ⟨fun h => ⟨h.1, h.2.1, h.2.2⟩, fun h => ⟨h.agentRuns, h.controlStates, h.controlRequests⟩⟩

/-- The first run fails in a way that allows a retry, and a second run is opened. -/
def retriedSchedule : List (Instant × Action) :=
  [(0, .submit (sampleCommand "request") "owner"),
   (1, .claimNext sampleOperation "worker-1" 10),
   (2, .complete sampleOperation "worker-1" (.failure ⟨.failedRetryable, "busy", none⟩) none),
   (3, .claimNext sampleOperation "worker-2" 10)]

set_option maxRecDepth 4000 in
/-- The purge of an owner with a retried operation is rolled back. -/
theorem retried_owner_not_erased :
    ∃ es db, Run (step sampleEnv) Store.empty es db ∧ clockAdvances es = true ∧
      ¬ PurgeErases sampleEnv "owner" db := by
  have hexec : (exec (step sampleEnv) Store.empty retriedSchedule).any (fun result =>
      clockAdvances result.1 &&
        !(purgePrivateDataForOwner sampleEnv "owner" result.2).isOk) = true := by
    decide +kernel
  obtain ⟨es, db, hrun, hcheck⟩ := exists_run_of_exec hexec
  rw [Bool.and_eq_true, Bool.not_eq_true'] at hcheck
  refine ⟨es, db, hrun, hcheck.1, ?_⟩
  rintro ⟨result, db', hcommit, -⟩
  have hfailed := hcheck.2
  rw [hcommit] at hfailed
  cases hfailed

set_option maxRecDepth 4000 in
/-- A paused and resumed task is erased. -/
theorem purge_erases_resumed :
    ∃ es db, Run (step sampleEnv) Store.empty es db ∧ es.length = 7 ∧
      PurgeErases sampleEnv "owner" db := by
  have hexec : (exec (step sampleEnv) Store.empty resumedSchedule).any (fun result =>
      decide (result.1.length = 7) && decide (Erasable "owner" result.2)) = true := by
    decide +kernel
  obtain ⟨es, db, hrun, hcheck⟩ := exists_run_of_exec hexec
  rw [Bool.and_eq_true, decide_eq_true_eq, decide_eq_true_eq] at hcheck
  exact ⟨es, db, hrun, hcheck.1, (purge_erases_iff hrun "owner").mpr hcheck.2⟩

end Sample

end ChoiceMind.TaskPersistence
