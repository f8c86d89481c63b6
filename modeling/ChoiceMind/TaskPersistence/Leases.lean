import ChoiceMind.TaskPersistence.Changes

/-!
# Lease exclusivity

An operation has its own lease and, once resumed, the lease of the request that
resumed it. Both claim paths are exclusive as long as the two leases agree.
-/

namespace ChoiceMind.TaskPersistence

set_option autoImplicit false

open Contracts Transition

/-- The worker that a claim is made for. -/
def Action.claimant : Action → Option String
  | .claimNext _ workerId _ => some workerId
  | .claimNextRuntimeControl workerId _ _ => some workerId
  | _ => none

/-- The operation runs under a lease of another worker that lasts beyond `now`. -/
def Operation.leasedElsewhere (operation : Operation) (workerId : String) (now : Instant) : Bool :=
  operation.state = .running && operation.workerId.any (fun holder => holder ≠ workerId) &&
    operation.leaseExpiresAt.any fun expiry => now < expiry

/-- The step hands out no operation that another worker still holds. -/
def exclusive (db : Store) (label : Instant × Action) (reply : Reply) : Bool :=
  reply.handsOut.all fun operationId => label.2.claimant.all fun workerId =>
    (db.operations.find? operationId).all fun operation =>
      !operation.leasedElsewhere workerId label.1

/-- A resume request that a worker has been handed. -/
def ControlRequest.resuming (request : ControlRequest) : Bool :=
  request.action.isResume && request.state = .running

/-- While a resume request of an operation is running, the operation is claimed again
only through that request, and completed only with it. -/
def throughRequest (db : Store) (label : Instant × Action) : Bool :=
  db.controlRequests.rows.all fun request => !request.resuming ||
    match label.2 with
    | .claimNext operationId _ _ => operationId ≠ request.operationId ||
        (db.operations.find? operationId).all fun row => !row.claimable label.1
    | .complete operationId _ _ controlRequestId => operationId ≠ request.operationId ||
        controlRequestId = some request.controlRequestId
    | _ => true

theorem throughRequest_claimNext {db : Store} {now : Instant} {operationId workerId : String}
    {leaseDurationMs : Nat} {request : ControlRequest} {row : Operation}
    (h : throughRequest db (now, .claimNext operationId workerId leaseDurationMs) = true)
    (hrequest : request ∈ db.controlRequests) (hresuming : request.resuming = true)
    (hrow : db.operations.find? operationId = some row) (hclaimable : row.claimable now = true) :
    request.operationId ≠ operationId := by
  have hguard := List.all_eq_true.mp h request hrequest
  simp only [hresuming, hrow, hclaimable, Bool.not_true, Bool.false_or, Option.all_some,
    Bool.or_false, decide_eq_true_eq] at hguard
  exact hguard.symm

theorem throughRequest_complete {db : Store} {now : Instant} {operationId workerId : String}
    {outcome : PersistentOutcome} {controlRequestId : Option String} {request : ControlRequest}
    (h : throughRequest db (now, .complete operationId workerId outcome controlRequestId) = true)
    (hrequest : request ∈ db.controlRequests) (hresuming : request.resuming = true)
    (hsame : request.operationId = operationId) :
    controlRequestId = some request.controlRequestId := by
  have hguard := List.all_eq_true.mp h request hrequest
  simpa only [hresuming, hsame, Bool.not_true, Bool.false_or, ne_eq, not_true_eq_false,
    decide_false, decide_eq_true_eq] using hguard

/-- The operation of a running resume request is cancelled, or it runs under the lease
of that request. -/
def sharesLease (request : ControlRequest) (operation : Operation) : Prop :=
  operation.state = .cancelled ∨
    (operation.state = .running ∧ operation.workerId = request.workerId ∧
      operation.leaseExpiresAt = request.leaseExpiresAt)

structure LeasesAgree (db : Store) : Prop where
  shared : ∀ request ∈ db.controlRequests, request.resuming = true →
    ∃ operation, db.operations.find? request.operationId = some operation ∧
      sharesLease request operation
  unique : ∀ request ∈ db.controlRequests, ∀ other ∈ db.controlRequests,
    request.resuming = true → other.resuming = true →
    request.operationId = other.operationId → request = other

theorem leasesAgree_empty : LeasesAgree Store.empty where
  shared := by
    intro request hrequest
    cases hrequest
  unique := by
    intro request hrequest
    cases hrequest

section Preservation
variable {env : Environment} {db db' : Store} {now : Instant} {action : Action} {reply : Reply}

/-- A step that starts no request keeps the invariant if the operations of the running
requests keep sharing their leases. -/
theorem LeasesAgree.of_kept (h : LeasesAgree db)
    (hkept : ∀ request ∈ db'.controlRequests, request.resuming = true →
      request ∈ db.controlRequests ∧
        ∀ operation, db.operations.find? request.operationId = some operation →
          sharesLease request operation →
          ∃ operation', db'.operations.find? request.operationId = some operation' ∧
            sharesLease request operation') : LeasesAgree db' where
  shared := by
    intro request hrequest hresuming
    obtain ⟨hold, hops⟩ := hkept request hrequest hresuming
    obtain ⟨operation, hfind, hshares⟩ := h.shared request hold hresuming
    exact hops operation hfind hshares
  unique := by
    intro request hrequest other hother hresuming hresuming' hsame
    exact h.unique request (hkept request hrequest hresuming).1 other
      (hkept other hother hresuming').1 hresuming hresuming' hsame

/-- The operation of a running request is not paused. -/
theorem sharesLease.not_paused {request : ControlRequest} {operation : Operation}
    (h : sharesLease request operation) : operation.state.isPaused = false := by
  rcases h with hstate | ⟨hstate, -⟩ <;> rw [hstate] <;> rfl

theorem resuming_failControlRequest {code : RuntimeControlErrorCode} {message : String}
    {request : ControlRequest} :
    (failControlRequest code message now request).resuming = false := by
  simp [ControlRequest.resuming, failControlRequest]

theorem resuming_finishControlRequest {payload : PersistentOutcome} {request : ControlRequest} :
    (finishControlRequest payload now request).resuming = false := by
  unfold ControlRequest.resuming finishControlRequest
  simp only
  split <;> simp

/-- A request that is still running after a completion was not finished by it. -/
theorem mem_finishRequests {controlRequestId : Option String} {operationId workerId : String}
    {payload : PersistentOutcome} {requests : Table ControlRequest.controlRequestId}
    {request : ControlRequest}
    (h : request ∈ finishRequests controlRequestId operationId workerId payload now requests)
    (hresuming : request.resuming = true) :
    request ∈ requests ∧ ∀ requestId ∈ controlRequestId,
      request.finishedBy requestId operationId workerId = false := by
  unfold finishRequests at h
  split at h
  · exact ⟨h, by simp⟩
  · obtain ⟨old, hold, rfl⟩ := Table.mem_updateWhere.mp h
    split at hresuming
    · rw [resuming_finishControlRequest] at hresuming
      cases hresuming
    · rename_i hnot
      rw [if_neg hnot]
      refine ⟨hold, ?_⟩
      rintro _ ⟨⟩
      exact Bool.eq_false_iff.mpr hnot

/-- Leasing a selected request together with its operation keeps the leases equal. -/
theorem LeasesAgree.leased (h : LeasesAgree db) {row : RuntimeControlClaimRow}
    {workerId : String} {expiry : Instant} (hrequest : row.request ∈ db.controlRequests)
    (hclaimable : row.request.claimable now = true)
    (hoperation : db.operations.find? row.request.operationId = some row.operation)
    (hconsistent : row.consistent = true)
    (hops : db'.operations = db.operations.update row.request.operationId fun operation =>
      leaseOperation operation.agentRunId workerId expiry now operation)
    (hreqs : db'.controlRequests = db.controlRequests.update row.request.controlRequestId
      (leaseControlRequest workerId expiry now)) :
    LeasesAgree db' := by
  -- no other running request has this operation
  have halone : ∀ other ∈ db.controlRequests, other.resuming = true →
      other.operationId = row.request.operationId → other = row.request := by
    intro other hother hresuming hsame
    rcases consistent_state hconsistent with ⟨hrunning, -⟩ | ⟨-, hpaused⟩
    · refine h.unique other hother row.request hrequest hresuming ?_ hsame
      rw [ControlRequest.claimable, Bool.and_eq_true] at hclaimable
      simp [ControlRequest.resuming, hclaimable.1, hrunning]
    · obtain ⟨operation, hfind, hshares⟩ := h.shared other hother hresuming
      rw [hsame, hoperation] at hfind
      cases hfind
      rw [hshares.not_paused] at hpaused
      cases hpaused
  have hcases : ∀ request ∈ db'.controlRequests, request.resuming = true →
      request = leaseControlRequest workerId expiry now row.request ∨
        request ∈ db.controlRequests ∧ request.operationId ≠ row.request.operationId := by
    intro request hin hresuming
    rw [hreqs] at hin
    obtain ⟨old, hold, rfl⟩ := Table.mem_update.mp hin
    split at hresuming
    · rename_i hkey
      rw [if_pos hkey, Table.eq_of_key_eq hold hrequest hkey]
      exact .inl rfl
    · rename_i hkey
      rw [if_neg hkey]
      exact .inr ⟨hold, fun hsame => hkey (halone old hold hresuming hsame ▸ rfl)⟩
  constructor
  · intro request hin hresuming
    rcases hcases request hin hresuming with rfl | ⟨hold, hother⟩
    · refine ⟨leaseOperation row.operation.agentRunId workerId expiry now row.operation, ?_,
        .inr ⟨rfl, rfl, rfl⟩⟩
      rw [hops]
      simp only [leaseControlRequest, Table.find?_update_self, hoperation, Option.map_some]
    · obtain ⟨operation, hfind, hshares⟩ := h.shared request hold hresuming
      refine ⟨operation, ?_, hshares⟩
      rw [hops, Table.find?_update, if_neg hother, hfind]
  · intro request hin other hin' hresuming hresuming' hsame
    rcases hcases request hin hresuming with rfl | ⟨hold, hother⟩ <;>
      rcases hcases other hin' hresuming' with rfl | ⟨hold', hother'⟩
    · rfl
    · exact absurd hsame.symm hother'
    · exact absurd hsame hother
    · exact h.unique request hold other hold' hresuming hresuming' hsame

/-- The two leases agree after every guarded step. -/
theorem LeasesAgree.change (h : LeasesAgree db) (hguard : throughRequest db (now, action) = true)
    (hchange : Change env db now action reply db') : LeasesAgree db' := by
  cases hchange with
  | frame hsame hreply =>
    refine h.of_kept fun request hrequest _ => ?_
    rw [hsame.controlRequests] at hrequest
    rw [hsame.operations]
    exact ⟨hrequest, fun operation hfind hshares => ⟨operation, hfind, hshares⟩⟩
  | submitted hops hreqs hdrawn hruns =>
    refine h.of_kept fun request hrequest _ => ?_
    rw [hreqs] at hrequest
    refine ⟨hrequest, fun operation hfind hshares => ⟨operation, ?_, hshares⟩⟩
    obtain ⟨hmem, hkey⟩ := Table.find?_eq_some.mp hfind
    exact Table.find?_eq_some.mpr ⟨(Table.mem_insert? hops).mpr (.inl hmem), hkey⟩
  | @claimed workerId leaseDurationMs claim row _ hrow hclaimable hops hreqs hrun =>
    refine h.of_kept fun request hrequest hresuming => ?_
    rw [hreqs] at hrequest
    refine ⟨hrequest, fun operation hfind hshares => ⟨operation, ?_, hshares⟩⟩
    have hother := throughRequest_claimNext hguard hrequest hresuming hrow hclaimable
    rw [hops, Table.find?_update, if_neg hother, hfind]
  | controlRejected hrequest hclaimable hops hreqs hdrawn hruns =>
    refine h.of_kept fun request hin hresuming => ?_
    rw [hreqs] at hin
    rw [hops]
    obtain ⟨old, hold, rfl⟩ := Table.mem_update.mp hin
    split at hresuming
    · rw [resuming_failControlRequest] at hresuming
      cases hresuming
    · rename_i hkey
      rw [if_neg hkey]
      exact ⟨hold, fun operation hfind hshares => ⟨operation, hfind, hshares⟩⟩
  | controlClaimed hrequest hclaimable hoperation hconsistent hops hreqs hclaim hrun hdrawn hruns =>
    exact h.leased hrequest hclaimable hoperation hconsistent hops hreqs
  | @completed operationId workerId outcome controlRequestId completion row decoded settle _
      hrow hdecoded hcompletable hsettle hcommitted hops hreqs hdrawn hruns =>
    refine h.of_kept fun request hin hresuming => ?_
    rw [hreqs] at hin
    obtain ⟨hold, hunfinished⟩ := mem_finishRequests hin hresuming
    refine ⟨hold, fun operation hfind hshares => ⟨operation, ?_, hshares⟩⟩
    have hother : request.operationId ≠ operationId := by
      intro hsame
      have hnamed := throughRequest_complete hguard hold hresuming hsame
      rw [hsame, hrow] at hfind
      cases hfind
      simp only [Operation.completableBy, Bool.and_eq_true, decide_eq_true_eq] at hcompletable
      obtain ⟨⟨⟨⟨hworker, hstate⟩, -⟩, -⟩, -⟩ := hcompletable
      rcases hshares with hcancelled | ⟨-, hholder, -⟩
      · rw [hstate] at hcancelled
        cases hcancelled
      have hfinished : request.finishedBy request.controlRequestId operationId workerId = true := by
        simp only [ControlRequest.resuming, Bool.and_eq_true, decide_eq_true_eq] at hresuming
        simp [ControlRequest.finishedBy, hsame, ← hholder, hworker, hresuming.2]
      rw [hunfinished _ hnamed] at hfinished
      cases hfinished
    rw [hops, Table.find?_update, if_neg hother, hfind]
  | resumeRequested hoperation hpaused hops hreqs hdrawn hruns =>
    refine h.of_kept fun request hin hresuming => ?_
    rw [hops]
    rcases (Table.mem_insert? hreqs).mp hin with hold | rfl
    · exact ⟨hold, fun operation hfind hshares => ⟨operation, hfind, hshares⟩⟩
    · simp [ControlRequest.resuming, resumeRequest] at hresuming
  | cancelled hoperation hops hreqs hdrawn hruns =>
    refine h.of_kept fun request hin hresuming => ?_
    rcases (Table.mem_insert? hreqs).mp hin with hold | rfl
    · refine ⟨hold, fun operation hfind hshares => ?_⟩
      rw [hops, Table.find?_update, hfind]
      split
      · exact ⟨_, rfl, .inl rfl⟩
      · exact ⟨operation, rfl, hshares⟩
    · simp [ControlRequest.resuming, cancelRequest] at hresuming
  | purged hops hreqs hruns hevents hdrawn =>
    refine h.of_kept fun request hin hresuming => ?_
    rw [hreqs] at hin
    obtain ⟨hold, houtside⟩ := Table.mem_deleteWhere.mp hin
    refine ⟨hold, fun operation hfind hshares => ⟨operation, ?_, hshares⟩⟩
    obtain ⟨hmem, hkey⟩ := Table.find?_eq_some.mp hfind
    rw [hops, Table.find?_eq_some, Table.mem_deleteWhere, hkey]
    exact ⟨⟨hmem, houtside⟩, rfl⟩

theorem leasedElsewhere_eq_false {operation : Operation} {workerId : String}
    (h : operation.state = .running → ∀ expiry, operation.leaseExpiresAt = some expiry →
      expiry ≤ now) : operation.leasedElsewhere workerId now = false := by
  unfold Operation.leasedElsewhere
  cases hlease : operation.leaseExpiresAt with
  | none => simp
  | some expiry =>
    by_cases hstate : operation.state = .running
    · have hpast := not_lt.mpr (h hstate expiry hlease)
      simp [hpast]
    · simp [hstate]

theorem not_leased_of_claimable {operation : Operation} {workerId : String}
    (h : operation.claimable now = true) : operation.leasedElsewhere workerId now = false := by
  apply leasedElsewhere_eq_false
  intro hstate expiry hlease
  simp only [Operation.claimable, Operation.leaseExpired, hstate, hlease, reduceCtorEq,
    decide_false, decide_true, Bool.false_or, Bool.true_and, Option.any_some,
    decide_eq_true_eq] at h
  exact le_of_lt h

/-- Under the invariant a step hands out nothing that another worker holds. -/
theorem LeasesAgree.exclusive (h : LeasesAgree db)
    (hchange : Change env db now action reply db') :
    exclusive db (now, action) reply = true := by
  unfold TaskPersistence.exclusive
  cases hchange with
  | frame hsame hreply =>
    rw [Reply.handsOut_of_isInert hreply]
    rfl
  | claimed hrow hclaimable hops hreqs hrun =>
    simp [Reply.handsOut, Action.claimant, hrow, not_leased_of_claimable hclaimable]
  | @controlClaimed workerId leaseDurationMs skipped row claim _ hrequest hclaimable hoperation
      hconsistent hops hreqs hclaim hrun hdrawn hruns =>
    simp only [Reply.handsOut, Action.claimant, hclaim, hoperation, Option.all_some,
      Bool.not_eq_true']
    apply leasedElsewhere_eq_false
    intro hrunning expiry hlease
    rcases consistent_state hconsistent with ⟨hstate, -⟩ | ⟨-, hpaused⟩
    · -- a reclaimed request: its lease, which is also the operation's, has ended
      have hresuming : row.request.resuming = true := by
        rw [ControlRequest.claimable, Bool.and_eq_true] at hclaimable
        simp [ControlRequest.resuming, hclaimable.1, hstate]
      obtain ⟨operation, hfind, hshares⟩ := h.shared row.request hrequest hresuming
      rw [hoperation] at hfind
      cases hfind
      rcases hshares with hcancelled | ⟨-, -, hsame⟩
      · rw [hrunning] at hcancelled
        cases hcancelled
      · simp only [ControlRequest.claimable, hstate, ← hsame, hlease, reduceCtorEq, decide_false,
          decide_true, Bool.false_or, Bool.true_and, Option.any_some, Bool.and_eq_true,
          decide_eq_true_eq] at hclaimable
        exact le_of_lt hclaimable.2
    · rw [hrunning] at hpaused
      cases hpaused
  | submitted => rfl
  | controlRejected => rfl
  | completed => rfl
  | resumeRequested => rfl
  | cancelled => rfl
  | purged => rfl

end Preservation

section Runs
variable {env : Environment} {db : Store}
  {es : List (Entry Store (Instant × Action) Reply)}

/-- In a run whose steps claim and complete resumed operations through their requests,
no operation is handed out while another worker holds its lease. -/
theorem lease_exclusivity (h : Run (step env) Store.empty es db)
    (hguard : Guarded (fun db label => throughRequest db label = true) es) :
    ∀ e ∈ es, exclusive e.before e.label e.reply = true := by
  refine h.forall_entry (P := fun db label reply _ => exclusive db label reply = true)
    ?_ ?_ hguard leasesAgree_empty
  · intro s t a r hs hG hstep
    exact hs.change hG (step_change hstep)
  · intro s t a r hs _ hstep
    exact hs.exclusive (step_change hstep)

end Runs

section Sample

/-- A reclaim through the request after its lease has ended, then the completion. -/
def reclaimedSchedule : List (Instant × Action) :=
  resumedSchedule ++
    [(20, .claimNextRuntimeControl "worker-2" 10 []),
     (25, .complete sampleOperation "worker-2" (.paused (samplePaused sampleRun))
       (some "control"))]

/-- The resumed operation is reclaimed from the stream, then once more through the
request whose own lease was left behind. -/
def overtakenSchedule : List (Instant × Action) :=
  resumedSchedule ++
    [(20, .claimNext sampleOperation "worker-2" 10),
     (25, .claimNextRuntimeControl "worker-3" 10 [])]

set_option maxRecDepth 4000 in
/-- Worker 3 is handed an operation whose lease worker 2 holds until 30. -/
theorem overtaken_not_exclusive :
    ∃ es db, Run (step sampleEnv) Store.empty es db ∧ clockAdvances es = true ∧
      ∃ e ∈ es, exclusive e.before e.label e.reply = false := by
  have hexec : (exec (step sampleEnv) Store.empty overtakenSchedule).any (fun result =>
      clockAdvances result.1 && result.1.any fun e => !exclusive e.before e.label e.reply) =
      true := by
    decide +kernel
  obtain ⟨es, db, hrun, hcheck⟩ := exists_run_of_exec hexec
  rw [Bool.and_eq_true, List.any_eq_true] at hcheck
  obtain ⟨hclock, e, he, hnot⟩ := hcheck
  exact ⟨es, db, hrun, hclock, e, he, by simpa using hnot⟩

set_option maxRecDepth 4000 in
theorem lease_exclusivity_reclaimed :
    ∃ es db, Run (step sampleEnv) Store.empty es db ∧
      (es.filterMap fun e => e.reply.handsOut) =
        [sampleOperation, sampleOperation, sampleOperation] ∧
      ∀ e ∈ es, exclusive e.before e.label e.reply = true := by
  have hexec : (exec (step sampleEnv) Store.empty reclaimedSchedule).any (fun result =>
      (result.1.all fun e => throughRequest e.before e.label) &&
        decide ((result.1.filterMap fun e => e.reply.handsOut) =
          [sampleOperation, sampleOperation, sampleOperation])) = true := by
    decide +kernel
  obtain ⟨es, db, hrun, hcheck⟩ := exists_run_of_exec hexec
  rw [Bool.and_eq_true, List.all_eq_true, decide_eq_true_eq] at hcheck
  exact ⟨es, db, hrun, hcheck.2, lease_exclusivity hrun hcheck.1⟩

end Sample

end ChoiceMind.TaskPersistence
