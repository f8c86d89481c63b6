import ChoiceMind.TaskPersistence.Reappearance
import ChoiceMind.TaskPersistence.EventLog

/-!
# Control requests and control rows over a step

What a request asks for never changes while it is stored. A cancelled control row stays
cancelled until a purge deletes it, so a stored cancellation is in force.
-/

namespace ChoiceMind.TaskPersistence

set_option autoImplicit false

open Contracts Transition

variable {env : Environment} {db db' : Store} {now : Instant} {action : Action} {reply : Reply}

theorem commitsPurge_purged {ownerUserId : String} {result : PurgeResult} :
    commitsPurge ownerUserId (now, .purgePrivateDataForOwner ownerUserId) (.purged result) =
      true :=
  decide_eq_true rfl

def Reply.isPurged : Reply → Bool
  | .purged _ => true
  | _ => false

theorem commitsPurge_of_not_purged {label : Instant × Action} (h : reply.isPurged = false)
    (ownerUserId : String) : commitsPurge ownerUserId label reply = false := by
  unfold commitsPurge
  split
  · cases h
  · rfl

theorem commitsPurge_unique {ownerUserId other : String} {label : Instant × Action}
    (h : commitsPurge ownerUserId label reply = true) (h' : commitsPurge other label reply = true) :
    other = ownerUserId := by
  obtain ⟨now, action⟩ := label
  unfold commitsPurge at h
  split at h
  · rename_i purged result haction
    cases haction
    exact (of_decide_eq_true h').symm.trans (of_decide_eq_true h)
  · cases h

section Requests
variable {request : ControlRequest}

/-- The same request at a later time. -/
structure SameRequest (request later : ControlRequest) : Prop where
  controlRequestId : later.controlRequestId = request.controlRequestId
  operationId : later.operationId = request.operationId
  decisionTaskId : later.decisionTaskId = request.decisionTaskId
  agentRunId : later.agentRunId = request.agentRunId
  ownerUserId : later.ownerUserId = request.ownerUserId
  action : later.action = request.action
  correlationId : later.correlationId = request.correlationId
  confirmation : later.confirmation = request.confirmation

theorem SameRequest.refl (request : ControlRequest) : SameRequest request request :=
  ⟨rfl, rfl, rfl, rfl, rfl, rfl, rfl, rfl⟩

theorem SameRequest.trans {first second third : ControlRequest} (h : SameRequest first second)
    (h' : SameRequest second third) : SameRequest first third :=
  ⟨h'.controlRequestId.trans h.controlRequestId, h'.operationId.trans h.operationId,
    h'.decisionTaskId.trans h.decisionTaskId, h'.agentRunId.trans h.agentRunId,
    h'.ownerUserId.trans h.ownerUserId, h'.action.trans h.action,
    h'.correlationId.trans h.correlationId, h'.confirmation.trans h.confirmation⟩

theorem finishControlRequest_same (payload : PersistentOutcome) (request : ControlRequest) :
    SameRequest request (finishControlRequest payload now request) :=
  ⟨rfl, rfl, rfl, rfl, rfl, rfl, rfl, rfl⟩

/-- Updates that keep what is requested. -/
structure RequestsKept (requests requests' : Table ControlRequest.controlRequestId) : Prop where
  origin : ∀ later ∈ requests', ∃ request ∈ requests, SameRequest request later
  kept : ∀ request ∈ requests, ∃ later ∈ requests', SameRequest request later

theorem RequestsKept.refl (requests : Table ControlRequest.controlRequestId) :
    RequestsKept requests requests :=
  ⟨fun later hlater => ⟨later, hlater, .refl later⟩,
    fun request hrequest => ⟨request, hrequest, .refl request⟩⟩

theorem RequestsKept.updateWhere {requests : Table ControlRequest.controlRequestId}
    {p : ControlRequest → Bool} {f : ControlRequest → ControlRequest}
    {hf : ∀ request, (f request).controlRequestId = request.controlRequestId}
    (hsame : ∀ request, SameRequest request (f request)) :
    RequestsKept requests (requests.updateWhere p f hf) := by
  have hchanged : ∀ request, SameRequest request (if p request then f request else request) := by
    intro request
    split
    · exact hsame request
    · exact .refl request
  constructor
  · intro later hlater
    obtain ⟨request, hrequest, rfl⟩ := Table.mem_updateWhere.mp hlater
    exact ⟨request, hrequest, hchanged request⟩
  · intro request hrequest
    exact ⟨_, Table.mem_updateWhere.mpr ⟨request, hrequest, rfl⟩, hchanged request⟩

theorem RequestsKept.finished {controlRequestId : Option String} {operationId workerId : String}
    {payload : PersistentOutcome} (requests : Table ControlRequest.controlRequestId) :
    RequestsKept requests
      (finishRequests controlRequestId operationId workerId payload now requests) := by
  unfold finishRequests
  split
  · exact .refl requests
  · exact .updateWhere fun request => finishControlRequest_same payload request

/-- What a step does to the requests. -/
inductive RequestChange (db : Store) (now : Instant) : Action → Store → Prop where
  | kept {action : Action} {db' : Store}
      (hkept : RequestsKept db.controlRequests db'.controlRequests) :
      RequestChange db now action db'
  | resumeRequested {input : RuntimeResumeRequestInput} {operation : Operation} {db' : Store}
      (hoperation : operation ∈ db.operations)
      (hinsert : db.controlRequests.insert? (resumeRequest input operation now) =
        some db'.controlRequests) : RequestChange db now (.requestRuntimeResume input) db'
  | cancelled {input : RuntimeCancelRequestInput} {operation : Operation} {db' : Store}
      (hoperation : operation ∈ db.operations)
      (hinsert : db.controlRequests.insert? (cancelRequest input operation now) =
        some db'.controlRequests)
      (hcancels : CancelsRow db.controlStates db'.controlStates operation.agentRunId) :
      RequestChange db now (.requestRuntimeCancel input) db'
  | purged {ownerUserId : String} {db' : Store}
      (hrequests : db'.controlRequests = db.controlRequests.deleteWhere fun row =>
        row.operationId ∈ (db.purgeScope ownerUserId).operationIds) :
      RequestChange db now (.purgePrivateDataForOwner ownerUserId) db'

theorem RequestsKept.of_eq (h : db'.controlRequests = db.controlRequests) :
    RequestsKept db.controlRequests db'.controlRequests := by
  rw [h]
  exact .refl _

theorem Change.requests (h : Change env db now action reply db') :
    RequestChange db now action db' := by
  cases h with
  | frame hsame hreply => exact .kept (.of_eq hsame.controlRequests)
  | submitted hops hreqs hdrawn hruns => exact .kept (.of_eq hreqs)
  | claimed hrow hclaimable hops hreqs hrun => exact .kept (.of_eq hreqs)
  | controlRejected hrequest hclaimable hops hreqs hdrawn hruns =>
    refine .kept ?_
    rw [hreqs]
    exact .updateWhere fun _ => ⟨rfl, rfl, rfl, rfl, rfl, rfl, rfl, rfl⟩
  | controlClaimed hrequest hclaimable hoperation hconsistent hops hreqs hclaim hrun hdrawn
      hruns =>
    refine .kept ?_
    rw [hreqs]
    exact .updateWhere fun _ => ⟨rfl, rfl, rfl, rfl, rfl, rfl, rfl, rfl⟩
  | completed hrow hdecoded hcompletable hsettle hcommitted hops hreqs hdrawn hruns =>
    refine .kept ?_
    rw [hreqs]
    exact .finished _
  | resumeRequested hoperation hpaused hops hreqs hdrawn hruns =>
    exact .resumeRequested hoperation hreqs
  | cancelled hoperation hops hreqs hdrawn hruns hopen hcancels =>
    exact .cancelled hoperation hreqs hcancels
  | purged hops hreqs hruns hevents hdrawn => exact .purged hreqs

end Requests

section Cancelled
variable {agentRunId : String}

theorem isRuntimeCancelled_iff : isRuntimeCancelled agentRunId db = true ↔
    ∃ row, db.controlStates.find? agentRunId = some row ∧ row.state = .cancelled := by
  simp only [isRuntimeCancelled, Option.any_eq_true, decide_eq_true_eq]

/-- A terminal row is left alone, overwritten by a cancellation of the task, or purged. -/
theorem step_terminal_row {row : ControlState}
    (h : step env db (now, action) = some (reply, db'))
    (hrow : db.controlStates.find? agentRunId = some row)
    (hterminal : row.state.isTerminal = true) :
    db'.controlStates.find? agentRunId = some row ∨
      (∃ input operation, action = .requestRuntimeCancel input ∧
        db.latestOperation input.decisionTaskId input.ownerUserId = some operation ∧
        operation.state.isFinal = false ∧
        db.controlRequests.find? input.controlRequestId = none ∧
        operation.agentRunId = agentRunId ∧ isRuntimeCancelled agentRunId db' = true) ∨
      ∃ ownerUserId, commitsPurge ownerUserId (now, action) reply = true ∧
        agentRunId ∈ (db.purgeScope ownerUserId).agentRunIds ∧
        db'.controlStates.find? agentRunId = none := by
  rcases step_cases h with hperform | ⟨-, rfl⟩
  swap
  · exact .inl hrow
  rcases perform_rows hperform with hrows | ⟨ownerUserId, rfl, rfl⟩
  · cases hrows.controlRows with
    | advanced hadvance =>
      have hrun := hadvance agentRunId
      rw [hrow] at hrun
      generalize hlater : db'.controlStates.find? agentRunId = later at hrun
      cases hrun with
      | same => exact .inl rfl
      | advanced row' hopen =>
        rw [hterminal] at hopen
        cases hopen
    | @cancelled input operation _ hlatest hopen hnew hcancels =>
      by_cases hrun : operation.agentRunId = agentRunId
      · refine .inr (.inl ⟨input, operation, rfl, hlatest, hopen, hnew, hrun, ?_⟩)
        rw [isRuntimeCancelled_iff, ← hrun]
        exact hcancels.cancelled
      · -- the row is not that of the cancelled run
        obtain ⟨hmem, rfl⟩ := Table.find?_eq_some.mp hrow
        have hstays : row ∈ db'.controlStates.select fun other =>
            other.agentRunId ≠ operation.agentRunId := by
          rw [hcancels.elsewhere, Table.mem_select]
          exact ⟨hmem, decide_eq_true fun hsame => hrun hsame.symm⟩
        exact .inl (Table.find?_of_mem (Table.mem_select.mp hstays).1)
  · have hreply : commitsPurge ownerUserId (now, .purgePrivateDataForOwner ownerUserId) reply =
        true := by
      simp only [perform, bind_eq_ok] at hperform
      obtain ⟨⟨result, _⟩, -, hperform⟩ := hperform
      cases hperform
      exact commitsPurge_purged
    have hstates : (db.erased env ownerUserId).controlStates =
        db.controlStates.deleteWhere fun row =>
          row.agentRunId ∈ (db.purgeScope ownerUserId).agentRunIds := rfl
    rw [hstates, Table.find?_deleteWhere, hrow]
    obtain ⟨-, rfl⟩ := Table.find?_eq_some.mp hrow
    by_cases hin : row.agentRunId ∈ (db.purgeScope ownerUserId).agentRunIds
    · exact .inr (.inr ⟨ownerUserId, hreply, hin, by simp [hin]⟩)
    · exact .inl (by simp [hin])

theorem step_cancelled (h : step env db (now, action) = some (reply, db'))
    (hcancelled : isRuntimeCancelled agentRunId db = true)
    (hkept : ∀ ownerUserId, commitsPurge ownerUserId (now, action) reply = true →
      agentRunId ∉ (db.purgeScope ownerUserId).agentRunIds) :
    isRuntimeCancelled agentRunId db' = true := by
  obtain ⟨row, hrow, hstate⟩ := isRuntimeCancelled_iff.mp hcancelled
  have hterminal : row.state.isTerminal = true := by
    rw [hstate]
    rfl
  rcases step_terminal_row h hrow hterminal with
    hsame | ⟨_, _, -, -, -, -, -, hagain⟩ | ⟨ownerUserId, hpurge, hin, -⟩
  · exact isRuntimeCancelled_iff.mpr ⟨row, hsame, hstate⟩
  · exact hagain
  · exact absurd hin (hkept ownerUserId hpurge)

/-- A stored cancellation has its run cancelled. -/
def CancelsHold (db : Store) : Prop :=
  ∀ request ∈ db.controlRequests, request.action.isResume = false →
    isRuntimeCancelled request.agentRunId db = true

theorem cancelsHold_empty : CancelsHold Store.empty := by
  intro request hrequest
  cases hrequest

/-- The requests of a run whose control row a purge deletes go with it. -/
theorem Registered.scope_of_run (h : Registered db) {request : ControlRequest}
    (hrequest : request ∈ db.controlRequests) {ownerUserId : String}
    (hin : request.agentRunId ∈ (db.purgeScope ownerUserId).agentRunIds) :
    request.operationId ∈ (db.purgeScope ownerUserId).operationIds := by
  have howner := h.runOwner_of_mem_scope hin
  rw [runOwner_eq, h.requests request hrequest] at howner
  exact mem_scope_operationIds.mpr howner

theorem CancelsHold.step (h : CancelsHold db) (hregistered : Registered db)
    (hstep : step env db (now, action) = some (reply, db')) : CancelsHold db' := by
  by_cases hpurges : ∃ ownerUserId, commitsPurge ownerUserId (now, action) reply = true
  · obtain ⟨purged, hpurge⟩ := hpurges
    obtain ⟨result, hcommit⟩ := purge_of_commits hpurge hstep
    obtain rfl := purgePrivateDataForOwner_ok hcommit
    intro later hlater hcancel
    have hstored : later ∈ db.controlRequests ∧
        decide (later.operationId ∈ (db.purgeScope purged).operationIds) = false :=
      Table.mem_deleteWhere.mp hlater
    refine step_cancelled hstep (h later hstored.1 hcancel) fun ownerUserId hagain hin => ?_
    obtain rfl := commitsPurge_unique hpurge hagain
    exact of_decide_eq_false hstored.2 (hregistered.scope_of_run hstored.1 hin)
  · have hold : ∀ request ∈ db.controlRequests, request.action.isResume = false →
        isRuntimeCancelled request.agentRunId db' = true := by
      intro request hrequest hcancel
      refine step_cancelled hstep (h request hrequest hcancel) fun ownerUserId hpurge => ?_
      exact absurd ⟨ownerUserId, hpurge⟩ hpurges
    intro later hlater hcancel
    cases (step_change hstep).requests with
    | kept hkept =>
      obtain ⟨request, hrequest, hsame⟩ := hkept.origin later hlater
      rw [hsame.agentRunId]
      rw [hsame.action] at hcancel
      exact hold request hrequest hcancel
    | resumeRequested hoperation hinsert =>
      rcases (Table.mem_insert? hinsert).mp hlater with hstored | rfl
      · exact hold later hstored hcancel
      · cases hcancel
    | cancelled hoperation hinsert hcancels =>
      rcases (Table.mem_insert? hinsert).mp hlater with hstored | rfl
      · exact hold later hstored hcancel
      · exact isRuntimeCancelled_iff.mpr hcancels.cancelled
    | purged hrequests =>
      rw [hrequests, Table.mem_deleteWhere] at hlater
      exact hold later hlater.1 hcancel

theorem cancelsHold_of_run {es : List (Entry Store (Instant × Action) Reply)}
    (h : Run (step env) Store.empty es db) : CancelsHold db := by
  have hpreserved : ∀ {s t : Store} {a : Instant × Action} {r : Reply},
      CancelsHold s ∧ Registered s → True → step env s a = some (r, t) →
        CancelsHold t ∧ Registered t := by
    intro s t a r hs _ hstep
    exact ⟨hs.1.step hs.2 hstep, hs.2.change (step_change hstep)⟩
  exact (h.invariant (G := fun _ _ => True) hpreserved (fun _ _ => trivial)
    ⟨cancelsHold_empty, registered_empty⟩).1

end Cancelled

end ChoiceMind.TaskPersistence
