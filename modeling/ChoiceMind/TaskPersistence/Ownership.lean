import ChoiceMind.TaskPersistence.Changes

/-!
# Whose rows are whose

Runs belong to operations and operations to owners. In every reachable state the current
run of an operation is registered, every registered run has a log, and control requests
name a run of their operation. This is what the foreign keys of a purge depend on.
-/

namespace ChoiceMind.TaskPersistence

set_option autoImplicit false

open Contracts Transition

variable {env : Environment}

/-- The owner of an operation id. -/
def Store.operationOwner (db : Store) (operationId : String) : Option String :=
  (db.operations.find? operationId).bind db.ownerOf

/-- The operation that a run was opened for. -/
def Store.runOperation (db : Store) (agentRunId : String) : Option String :=
  (db.agentRuns.find? agentRunId).map AgentRun.operationId

/-- Runs, requests and logs hang together. -/
structure Registered (db : Store) : Prop where
  operations : ∀ row ∈ db.operations, db.runOperation row.agentRunId = some row.operationId
  requests : ∀ request ∈ db.controlRequests,
    db.runOperation request.agentRunId = some request.operationId
  logged : ∀ run ∈ db.agentRuns, ∃ event ∈ db.events, event.agentRunId = run.agentRunId

section Owners
variable {db db' : Store} {ownerUserId operationId agentRunId : String}

theorem runOwner_eq : db.runOwner agentRunId = (db.runOperation agentRunId).bind db.operationOwner := by
  unfold Store.runOwner Store.runOperation Store.operationOwner
  cases db.agentRuns.find? agentRunId <;> rfl

theorem operationOwner_of_mem {row : Operation} (hrow : row ∈ db.operations) :
    db.operationOwner row.operationId = db.ownerOf row := by
  rw [Store.operationOwner, Table.find?_of_mem hrow]
  rfl

theorem runOperation_of_mem {run : AgentRun} (hrun : run ∈ db.agentRuns) :
    db.runOperation run.agentRunId = some run.operationId := by
  rw [Store.runOperation, Table.find?_of_mem hrun]
  rfl

theorem Registered.runOwner (h : Registered db) {row : Operation} (hrow : row ∈ db.operations) :
    db.runOwner row.agentRunId = db.ownerOf row := by
  rw [runOwner_eq, h.operations row hrow]
  exact operationOwner_of_mem hrow

theorem ownerOf_eq_some {row : Operation} :
    db.ownerOf row = some ownerUserId ↔
      ∃ submission ∈ db.submissions, submission.ownerUserId = ownerUserId ∧
        submission.executionRequestId = row.executionRequestId := by
  simp only [Store.ownerOf, Store.submissionOf, Option.map_eq_some_iff, Table.find?_eq_some]
  constructor
  · rintro ⟨submission, ⟨hmem, hkey⟩, howner⟩
    exact ⟨submission, hmem, howner, hkey⟩
  · rintro ⟨submission, hmem, howner, hkey⟩
    exact ⟨submission, ⟨hmem, hkey⟩, howner⟩

end Owners

section Scope
variable {db : Store} {ownerUserId : String}

theorem mem_scope_executionRequestIds {row : Operation} :
    row.executionRequestId ∈ (db.purgeScope ownerUserId).executionRequestIds ↔
      db.ownerOf row = some ownerUserId := by
  rw [ownerOf_eq_some]
  simp only [Store.purgeScope, List.mem_map, Table.mem_select, decide_eq_true_eq, and_assoc]

theorem mem_scope_operationIds {operationId : String} :
    operationId ∈ (db.purgeScope ownerUserId).operationIds ↔
      db.operationOwner operationId = some ownerUserId := by
  have hscope : operationId ∈ (db.purgeScope ownerUserId).operationIds ↔
      ∃ row ∈ db.operations, row.executionRequestId ∈
        (db.purgeScope ownerUserId).executionRequestIds ∧ row.operationId = operationId := by
    simp only [Store.purgeScope, List.mem_map, Table.mem_select, decide_eq_true_eq, and_assoc]
  rw [hscope, Store.operationOwner, Option.bind_eq_some_iff]
  simp only [mem_scope_executionRequestIds, Table.find?_eq_some]
  constructor
  · rintro ⟨row, hrow, howner, hkey⟩
    exact ⟨row, ⟨hrow, hkey⟩, howner⟩
  · rintro ⟨row, ⟨hrow, hkey⟩, howner⟩
    exact ⟨row, hrow, howner, hkey⟩

/-- A purge collects the current run of each operation, not the earlier ones. -/
theorem mem_scope_agentRunIds {agentRunId : String} :
    agentRunId ∈ (db.purgeScope ownerUserId).agentRunIds ↔
      ∃ row ∈ db.operations, db.ownerOf row = some ownerUserId ∧
        row.agentRunId = agentRunId := by
  have hscope : agentRunId ∈ (db.purgeScope ownerUserId).agentRunIds ↔
      ∃ row ∈ db.operations, row.executionRequestId ∈
        (db.purgeScope ownerUserId).executionRequestIds ∧ row.agentRunId = agentRunId := by
    simp only [Store.purgeScope, List.mem_map, Table.mem_select, decide_eq_true_eq, and_assoc]
  simp only [hscope, mem_scope_executionRequestIds]

theorem mem_scope_snapshotIds {snapshotId : String} :
    snapshotId ∈ (db.purgeScope ownerUserId).snapshotIds ↔
      ∃ fact ∈ db.recoveryFacts,
        fact.agentRunId ∈ (db.purgeScope ownerUserId).agentRunIds ∧
          fact.snapshotId = snapshotId := by
  simp only [Store.purgeScope, List.mem_map, Table.mem_select, decide_eq_true_eq, and_assoc]

theorem mem_scope_snapshotDigests {digest : String} :
    digest ∈ (db.purgeScope ownerUserId).snapshotDigests ↔
      ∃ fact ∈ db.recoveryFacts,
        fact.agentRunId ∈ (db.purgeScope ownerUserId).agentRunIds ∧
          fact.rawSnapshotDigest = digest := by
  simp only [Store.purgeScope, List.mem_map, Table.mem_select, decide_eq_true_eq, and_assoc]

theorem mem_scope_effectResultDigests {digest : String} :
    digest ∈ (db.purgeScope ownerUserId).effectResultDigests ↔
      ∃ binding ∈ db.effectResultBindings,
        binding.identity.agentRunId ∈ (db.purgeScope ownerUserId).agentRunIds ∧
          binding.digest = digest := by
  simp only [Store.purgeScope, List.mem_map, Table.mem_select, decide_eq_true_eq, and_assoc]

theorem mem_scope_eventCursors {cursor : Nat} :
    cursor ∈ (db.purgeScope ownerUserId).eventCursors ↔
      ∃ row ∈ db.runEvents,
        row.event.agentRunId ∈ (db.purgeScope ownerUserId).agentRunIds ∧
          row.cursor = cursor := by
  simp only [Store.purgeScope, List.mem_map, Table.mem_select, decide_eq_true_eq, and_assoc]

theorem Registered.runOwner_of_mem_scope (h : Registered db) {agentRunId : String}
    (hin : agentRunId ∈ (db.purgeScope ownerUserId).agentRunIds) :
    db.runOwner agentRunId = some ownerUserId := by
  obtain ⟨row, hrow, howner, rfl⟩ := mem_scope_agentRunIds.mp hin
  rw [h.runOwner hrow, howner]

end Scope

section Preservation
variable {db db' : Store} {now : Instant} {action : Action} {reply : Reply}
  {agentRunId operationId : String}

theorem registered_empty : Registered Store.empty where
  operations := by
    intro row hrow
    cases hrow
  requests := by
    intro row hrow
    cases hrow
  logged := by
    intro row hrow
    cases hrow

theorem KeepsRuns.runOperation (h : KeepsRuns agentRunId db db') (run : String) :
    db'.runOperation run = db.runOperation run := by
  rw [Store.runOperation, Store.runOperation, h.agentRuns]

theorem OpensRun.runOperation (h : OpensRun agentRunId operationId db db') {run operation : String}
    (hrun : db.runOperation run = some operation) : db'.runOperation run = some operation := by
  obtain ⟨attempt, createdAt, hinsert⟩ := h.agentRuns
  obtain ⟨row, hrow, rfl⟩ := Option.map_eq_some_iff.mp hrun
  obtain ⟨hmem, rfl⟩ := Table.find?_eq_some.mp hrow
  exact runOperation_of_mem ((Table.mem_insert? hinsert).mpr (.inl hmem))

theorem OpensRun.runOperation_self (h : OpensRun agentRunId operationId db db') :
    db'.runOperation agentRunId = some operationId := by
  obtain ⟨attempt, createdAt, hinsert⟩ := h.agentRuns
  exact runOperation_of_mem ((Table.mem_insert? hinsert).mpr (.inr rfl))

theorem OpensRun.logged (h : OpensRun agentRunId operationId db db')
    (hlogged : ∀ run ∈ db.agentRuns, ∃ event ∈ db.events, event.agentRunId = run.agentRunId) :
    ∀ run ∈ db'.agentRuns, ∃ event ∈ db'.events, event.agentRunId = run.agentRunId := by
  obtain ⟨attempt, createdAt, hinsert⟩ := h.agentRuns
  obtain ⟨events, hnonempty, hlog, hof⟩ := h.events
  intro run hrun
  rw [hlog]
  rcases (Table.mem_insert? hinsert).mp hrun with hold | rfl
  · obtain ⟨earlier, hearlier, heq⟩ := hlogged run hold
    exact ⟨earlier, List.mem_append_left _ hearlier, heq⟩
  · obtain ⟨event, hevent⟩ := List.exists_mem_of_ne_nil events hnonempty
    exact ⟨event, List.mem_append_right _ hevent, hof event hevent⟩

/-- Without a new run, rows have only to keep their run and operation. -/
theorem Registered.of_keeps (h : Registered db) (hkeeps : KeepsRuns agentRunId db db')
    (hops : ∀ row ∈ db'.operations, ∃ old ∈ db.operations,
      row.operationId = old.operationId ∧ row.agentRunId = old.agentRunId)
    (hreqs : ∀ request ∈ db'.controlRequests,
      db.runOperation request.agentRunId = some request.operationId) :
    Registered db' where
  operations row hrow := by
    obtain ⟨old, hold, hkey, hrun⟩ := hops row hrow
    rw [hkeeps.runOperation, hkey, hrun]
    exact h.operations old hold
  requests request hrequest := by
    rw [hkeeps.runOperation]
    exact hreqs request hrequest
  logged run hrun := by
    rw [hkeeps.agentRuns] at hrun
    obtain ⟨events, hlog, -⟩ := hkeeps.events
    obtain ⟨event, hevent, heq⟩ := h.logged run hrun
    exact ⟨event, hlog ▸ List.mem_append_left _ hevent, heq⟩

/-- Updates of operations that keep the run. -/
theorem mem_update_operation {f : Operation → Operation}
    {hf : ∀ row, (f row).operationId = row.operationId} {row : Operation}
    (hrow : row ∈ db.operations.update operationId f hf) (hrun : ∀ row ∈ db.operations,
      row.operationId = operationId → (f row).agentRunId = row.agentRunId) :
    ∃ old ∈ db.operations, row.operationId = old.operationId ∧
      row.agentRunId = old.agentRunId := by
  obtain ⟨old, hold, rfl⟩ := Table.mem_update.mp hrow
  refine ⟨old, hold, ?_⟩
  split
  · exact ⟨hf old, hrun old hold ‹_›⟩
  · exact ⟨rfl, rfl⟩

theorem mem_self_operation {row : Operation} (hops : db'.operations = db.operations)
    (hrow : row ∈ db'.operations) :
    ∃ old ∈ db.operations, row.operationId = old.operationId ∧
      row.agentRunId = old.agentRunId :=
  ⟨row, hops ▸ hrow, rfl, rfl⟩

/-- Updates of requests that keep the run and the operation. -/
theorem Registered.updateRequests (h : Registered db) {p : ControlRequest → Bool}
    {f : ControlRequest → ControlRequest}
    {hf : ∀ request, (f request).controlRequestId = request.controlRequestId}
    {request : ControlRequest} (hrequest : request ∈ db.controlRequests.updateWhere p f hf)
    (hsame : ∀ request, (f request).agentRunId = request.agentRunId ∧
      (f request).operationId = request.operationId) :
    db.runOperation request.agentRunId = some request.operationId := by
  obtain ⟨old, hold, rfl⟩ := Table.mem_updateWhere.mp hrequest
  split
  · rw [(hsame old).1, (hsame old).2]
    exact h.requests old hold
  · exact h.requests old hold

theorem Registered.finished (h : Registered db) {controlRequestId : Option String}
    {workerId : String} {payload : PersistentOutcome} {request : ControlRequest}
    (hrequest : request ∈ finishRequests controlRequestId operationId workerId payload now
      db.controlRequests) : db.runOperation request.agentRunId = some request.operationId := by
  unfold finishRequests at hrequest
  split at hrequest
  · exact h.requests request hrequest
  · exact h.updateRequests hrequest fun _ => ⟨rfl, rfl⟩

theorem Registered.insertRequest (h : Registered db) {row : Operation} {request : ControlRequest}
    {requests : Table ControlRequest.controlRequestId} (hrow : row ∈ db.operations)
    (hinsert : db.controlRequests.insert? request = some requests)
    (hrun : request.agentRunId = row.agentRunId)
    (hoperation : request.operationId = row.operationId) {stored : ControlRequest}
    (hstored : stored ∈ requests) :
    db.runOperation stored.agentRunId = some stored.operationId := by
  rcases (Table.mem_insert? hinsert).mp hstored with hold | rfl
  · exact h.requests stored hold
  · rw [hrun, hoperation]
    exact h.operations row hrow

theorem Registered.change (h : Registered db) (hchange : Change env db now action reply db') :
    Registered db' := by
  cases hchange with
  | frame hsame hreply =>
    refine h.of_keeps (hsame.keepsRuns "")
      (fun _ => mem_self_operation hsame.operations) ?_
    rw [hsame.controlRequests]
    exact h.requests
  | submitted hops hreqs hdrawn hruns =>
    refine ⟨?_, ?_, hruns.logged h.logged⟩
    · intro row hrow
      rcases (Table.mem_insert? hops).mp hrow with hold | rfl
      · exact hruns.runOperation (h.operations row hold)
      · exact hruns.runOperation_self
    · rw [hreqs]
      exact fun request hrequest => hruns.runOperation (h.requests request hrequest)
  | @claimed workerId leaseDurationMs claim row _ hrow hclaimable hops hreqs hrun =>
    obtain ⟨hmem, hkey⟩ := Table.find?_eq_some.mp hrow
    cases hrun with
    | current hstate hrun hdrawn hruns =>
      refine h.of_keeps hruns ?_ (hreqs ▸ h.requests)
      rw [hops]
      refine fun _ hin => mem_update_operation hin ?_
      intro old hold hsame
      rw [Table.eq_of_key_eq hold hmem (hsame.trans hkey.symm)]
      exact hrun
    | retried hstate hrun hdrawn hruns =>
      refine ⟨?_, ?_, hruns.logged h.logged⟩
      · intro old hold
        rw [hops] at hold
        rcases Table.mem_update_of_find? hrow hold with rfl | ⟨hother, -⟩
        · exact hruns.runOperation_self
        · exact hruns.runOperation (h.operations old hother)
      · rw [hreqs]
        exact fun request hrequest => hruns.runOperation (h.requests request hrequest)
  | controlRejected hrequest hclaimable hops hreqs hdrawn hruns =>
    refine h.of_keeps hruns (fun _ => mem_self_operation hops) ?_
    rw [hreqs]
    exact fun _ hin => h.updateRequests hin fun _ => ⟨rfl, rfl⟩
  | controlClaimed hrequest hclaimable hoperation hconsistent hops hreqs hclaim hrun hdrawn
      hruns =>
    refine h.of_keeps hruns ?_ ?_
    · rw [hops]
      exact fun _ hin => mem_update_operation hin fun _ _ _ => rfl
    · rw [hreqs]
      exact fun _ hin => h.updateRequests hin fun _ => ⟨rfl, rfl⟩
  | completed hrow hdecoded hcompletable hsettle hcommitted hops hreqs hdrawn hruns =>
    refine h.of_keeps hruns ?_ ?_
    · rw [hops]
      exact fun _ hin => mem_update_operation hin fun old _ _ => hsettle.agentRunId old
    · rw [hreqs]
      exact fun _ => h.finished
  | resumeRequested hoperation hpaused hops hreqs hdrawn hruns =>
    exact h.of_keeps hruns (fun _ => mem_self_operation hops)
      fun _ => h.insertRequest hoperation hreqs rfl rfl
  | cancelled hoperation hops hreqs hdrawn hruns =>
    refine h.of_keeps hruns ?_ fun _ => h.insertRequest hoperation hreqs rfl rfl
    rw [hops]
    exact fun _ hin => mem_update_operation hin fun _ _ _ => rfl
  | @purged ownerUserId result _ hops hreqs hruns hevents hdrawn =>
    -- the registration of a row that stays is not deleted
    have hkept : ∀ {run operation : String}, db.runOperation run = some operation →
        operation ∉ (db.purgeScope ownerUserId).operationIds →
        db'.runOperation run = some operation := by
      intro run operation hrun hstays
      obtain ⟨registered, hfound, rfl⟩ := Option.map_eq_some_iff.mp hrun
      obtain ⟨hmem, rfl⟩ := Table.find?_eq_some.mp hfound
      refine runOperation_of_mem ?_
      rw [hruns, Table.mem_deleteWhere]
      exact ⟨hmem, decide_eq_false hstays⟩
    constructor
    · intro row hrow
      rw [hops, Table.mem_deleteWhere, decide_eq_false_iff_not] at hrow
      exact hkept (h.operations row hrow.1) hrow.2
    · intro request hrequest
      rw [hreqs, Table.mem_deleteWhere, decide_eq_false_iff_not] at hrequest
      exact hkept (h.requests request hrequest.1) hrequest.2
    · intro run hrun
      rw [hruns, Table.mem_deleteWhere, decide_eq_false_iff_not, mem_scope_operationIds] at hrun
      obtain ⟨event, hevent, hof⟩ := h.logged run hrun.1
      obtain ⟨stored, hstored, rfl⟩ := List.mem_map.mp hevent
      refine ⟨stored.event, List.mem_map.mpr ⟨stored, ?_, rfl⟩, hof⟩
      rw [hevents, Table.mem_rows, Table.mem_deleteWhere, decide_eq_false_iff_not]
      refine ⟨hstored, fun hin => hrun.2 ?_⟩
      have howner := h.runOwner_of_mem_scope hin
      rwa [hof, runOwner_eq, runOperation_of_mem hrun.1] at howner

theorem registered_of_run {es : List (Entry Store (Instant × Action) Reply)}
    (h : Run (step env) Store.empty es db) : Registered db := by
  refine h.invariant (G := fun _ _ => True) ?_ (fun _ _ => trivial) registered_empty
  intro s t a r hs _ hstep
  exact hs.change (step_change hstep)

end Preservation

end ChoiceMind.TaskPersistence
