import ChoiceMind.TaskPersistence.System

/-!
# What a step does to operations and control requests

`Change` lists, once for all actions, how the two tables that hand operations out can
change. The invariants about leases, pauses and logs are proved over these cases.
-/

namespace ChoiceMind.TaskPersistence

set_option autoImplicit false

open Contracts

/-- Every message was there before, for the same operation. -/
def SameOutbox (db db' : Store) : Prop :=
  ∀ message ∈ db'.outbox, ∃ old ∈ db.outbox,
    old.messageId = message.messageId ∧ old.operationId = message.operationId

theorem SameOutbox.of_eq {db db' : Store} (h : db'.outbox = db.outbox) : SameOutbox db db' :=
  fun message hmessage => ⟨message, h ▸ hmessage, rfl, rfl⟩

/-- Submissions, operations, runs, control requests and the event log do not change, and
no message is added. -/
structure SameClaims (db db' : Store) : Prop where
  submissions : db'.submissions = db.submissions
  operations : db'.operations = db.operations
  controlRequests : db'.controlRequests = db.controlRequests
  agentRuns : db'.agentRuns = db.agentRuns
  runEvents : db'.runEvents = db.runEvents
  drawn_le : db.uuidsDrawn ≤ db'.uuidsDrawn
  cursor_le : db.nextCursor ≤ db'.nextCursor
  outbox : SameOutbox db db'

theorem SameClaims.refl (db : Store) : SameClaims db db :=
  ⟨rfl, rfl, rfl, rfl, rfl, le_refl _, le_refl _, .of_eq rfl⟩

/-- The log grows by events of one run. -/
def LogsOnly (agentRunId : String) (events : List RunEvent) (db db' : Store) : Prop :=
  db'.events = db.events ++ events ∧ ∀ event ∈ events, event.agentRunId = agentRunId

/-- A creation event is added only where the log of an operation's run has none. -/
def NoSecondCreated (agentRunId : String) (db db' : Store) : Prop :=
  ∀ events, db'.events = db.events ++ events → ∀ event ∈ events, event.taskState = .created →
    ∃ row ∈ db.operations, row.agentRunId = agentRunId ∧
      .created ∉ (db.runEventsOf row.decisionTaskId row.agentRunId).map RunEvent.taskState

/-- Nothing is submitted, no run is opened and only the log of one run grows. -/
structure KeepsRuns (agentRunId : String) (db db' : Store) : Prop where
  submissions : db'.submissions = db.submissions
  agentRuns : db'.agentRuns = db.agentRuns
  events : ∃ events, LogsOnly agentRunId events db db'
  cursors : LogGrows db db'
  created : NoSecondCreated agentRunId db db'
  outbox : SameOutbox db db'

theorem KeepsRuns.of_eq (agentRunId : String) {db db' : Store}
    (hsubmissions : db'.submissions = db.submissions) (hruns : db'.agentRuns = db.agentRuns)
    (hevents : db'.runEvents = db.runEvents) (hcursor : db.nextCursor ≤ db'.nextCursor)
    (houtbox : SameOutbox db db') : KeepsRuns agentRunId db db' := by
  have hlog : db'.events = db.events ++ [] := by
    rw [List.append_nil, Store.events, Store.events, hevents]
  refine ⟨hsubmissions, hruns, ⟨[], hlog, ?_⟩, .of_eq hevents hcursor, ?_, houtbox⟩
  · intro event hevent
    cases hevent
  · intro events hadded event hevent
    rw [← List.append_cancel_left (hlog.symm.trans hadded)] at hevent
    cases hevent

theorem SameClaims.keepsRuns {db db' : Store} (h : SameClaims db db') (agentRunId : String) :
    KeepsRuns agentRunId db db' :=
  .of_eq agentRunId h.submissions h.agentRuns h.runEvents h.cursor_le h.outbox

/-- Appending events to the log opens no run. -/
theorem KeepsRuns.of_appends {agentRunId : String} {db db₁ db' : Store} {events : List RunEvent}
    (h : Appends db₁ events db') (hsubmissions : db₁.submissions = db.submissions)
    (hruns : db₁.agentRuns = db.agentRuns) (hevents : db₁.runEvents = db.runEvents)
    (hcursor : db₁.nextCursor = db.nextCursor) (houtbox : db₁.outbox = db.outbox)
    (hof : ∀ event ∈ events, event.agentRunId = agentRunId)
    (hcreated : ∀ event ∈ events, event.taskState = .created →
      ∃ row ∈ db.operations, row.agentRunId = agentRunId ∧
        .created ∉ (db.runEventsOf row.decisionTaskId row.agentRunId).map RunEvent.taskState) :
    KeepsRuns agentRunId db db' := by
  have hlog : db'.events = db.events ++ events := by
    rw [h.events_eq, Store.events, hevents]
    rfl
  refine ⟨h.submissions.trans hsubmissions, h.agentRuns.trans hruns, ⟨events, hlog, hof⟩,
    h.logGrows.of_start hevents hcursor, ?_, .of_eq (h.outbox.trans houtbox)⟩
  intro added hadded event hevent
  rw [← List.append_cancel_left (hlog.symm.trans hadded)] at hevent
  exact hcreated event hevent

/-- A run of an operation is opened together with events of its own. -/
structure OpensRun (agentRunId operationId : String) (db db' : Store) : Prop where
  agentRuns : ∃ attempt createdAt,
    db.agentRuns.insert? ⟨agentRunId, operationId, attempt, createdAt⟩ = some db'.agentRuns
  events : ∃ events, events ≠ [] ∧ LogsOnly agentRunId events db db'
  cursors : LogGrows db db'
  created : ∀ events, db'.events = db.events ++ events →
    (events.filter fun event => event.taskState = .created).length = 1
  first : ∀ events, db'.events = db.events ++ events →
    events.head?.map RunEvent.taskState = some .created
  numbered : ∀ run ∈ db'.agentRuns, run ∈ db.agentRuns ∨ run.attempt = 1 ∨
    run.attempt = db.nextAttempt run.operationId
  unattempted : ∀ run ∈ db'.agentRuns, run ∈ db.agentRuns ∨ ∀ other ∈ db.agentRuns,
    other.operationId = run.operationId → other.attempt ≠ run.attempt

/-- The run of a claim: the current one, or a fresh one for a retry. -/
inductive ClaimedRun (env : Environment) (db : Store) (row : Operation) (agentRunId : String)
    (db' : Store) : Prop where
  | current (hstate : row.state ≠ .failedRetryable) (hrun : agentRunId = row.agentRunId)
      (hdrawn : db.uuidsDrawn ≤ db'.uuidsDrawn) (hruns : KeepsRuns agentRunId db db')
  | retried (hstate : row.state = .failedRetryable)
      (hrun : agentRunId = "agent-run-" ++ env.randomUUID db.uuidsDrawn)
      (hdrawn : db.uuidsDrawn < db'.uuidsDrawn)
      (hruns : OpensRun agentRunId row.operationId db db')
      (hsubmissions : db'.submissions = db.submissions)
      (houtbox : SameOutbox db db')

/-- What a completion leaves of an operation, apart from its payload and times. -/
structure Settles (decoded : DecodedOutcome) (settle : Operation → Operation) : Prop where
  operationId : ∀ row, (settle row).operationId = row.operationId
  agentRunId : ∀ row, (settle row).agentRunId = row.agentRunId
  executionRequestId : ∀ row, (settle row).executionRequestId = row.executionRequestId
  decisionTaskId : ∀ row, (settle row).decisionTaskId = row.decisionTaskId
  createdAt : ∀ row, (settle row).createdAt = row.createdAt
  state : ∀ row, (settle row).state = decoded.state
  paused : ∀ row paused, decodePausedPayload (settle row).resultPayload = some paused →
    decoded.agentRunId = some paused.snapshot.agentRunId ∧
      decoded.decisionTaskId = some paused.snapshot.decisionTaskId

inductive Change (env : Environment) (db : Store) (now : Instant) :
    Action → Reply → Store → Prop where
  | frame {action : Action} {reply : Reply} {db' : Store} (hsame : SameClaims db db')
      (hreply : reply.isInert = true) : Change env db now action reply db'
  | submitted {command : ExecuteDecisionTaskCommand} {ownerUserId : String}
      {snapshot : DecisionTaskSnapshot} {db' : Store}
      (hops : db.operations.insert? (acceptedOperation env command now db) =
        some db'.operations)
      (hreqs : db'.controlRequests = db.controlRequests)
      (hdrawn : db.uuidsDrawn < db'.uuidsDrawn)
      (hruns : OpensRun (acceptedOperation env command now db).agentRunId
        (acceptedOperation env command now db).operationId db db')
      (hsubmissions : db.submissions.insert?
        ⟨command.executionRequestId, ownerUserId, env.sha256 (env.canonicalize command), command,
          now⟩ = some db'.submissions)
      (hfresh : ∀ row ∈ db.operations, row.executionRequestId ≠ command.executionRequestId)
      (houtbox : ∃ message, db.outbox.insert? message = some db'.outbox ∧
        ∀ other ∈ db.outbox, other.operationId ≠ message.operationId) :
      Change env db now (.submit command ownerUserId) (.submitted snapshot) db'
  | claimed {workerId : String} {leaseDurationMs : Nat} {claim : DecisionTaskClaim}
      {row : Operation} {db' : Store}
      (hrow : db.operations.find? claim.operationId = some row)
      (hclaimable : row.claimable now = true)
      (hops : db'.operations = db.operations.update claim.operationId
        (leaseOperation claim.agentRunId workerId (now + leaseDurationMs) now))
      (hreqs : db'.controlRequests = db.controlRequests)
      (hrun : ClaimedRun env db row claim.agentRunId db') :
      Change env db now (.claimNext claim.operationId workerId leaseDurationMs)
        (.claim (.claimed claim)) db'
  | controlRejected {workerId : String} {leaseDurationMs : Nat} {skipped : List String}
      {request : ControlRequest} {code : RuntimeControlErrorCode} {message : String}
      {db' : Store} (hrequest : request ∈ db.controlRequests)
      (hclaimable : request.claimable now = true)
      (hops : db'.operations = db.operations)
      (hreqs : db'.controlRequests = db.controlRequests.update request.controlRequestId
        (failControlRequest code message now))
      (hdrawn : db.uuidsDrawn ≤ db'.uuidsDrawn)
      (hruns : KeepsRuns request.agentRunId db db')
      (hquiet : db'.events = db.events ∨ ∃ row : RuntimeControlClaimRow, row.request = request ∧
        db.operations.find? request.operationId = some row.operation ∧ row.consistent = true)
      (hmessage : isMeaningful message = true) :
      Change env db now (.claimNextRuntimeControl workerId leaseDurationMs skipped)
        (.controlClaim .empty) db'
  | controlClaimed {workerId : String} {leaseDurationMs : Nat} {skipped : List String}
      {row : RuntimeControlClaimRow} {claim : RuntimeControlClaim} {db' : Store}
      (hrequest : row.request ∈ db.controlRequests)
      (hclaimable : row.request.claimable now = true)
      (hoperation : db.operations.find? row.request.operationId = some row.operation)
      (hconsistent : row.consistent = true)
      (hops : db'.operations = db.operations.update row.request.operationId fun operation =>
        leaseOperation operation.agentRunId workerId (now + leaseDurationMs) now operation)
      (hreqs : db'.controlRequests = db.controlRequests.update row.request.controlRequestId
        (leaseControlRequest workerId (now + leaseDurationMs) now))
      (hclaim : claim.operationId = row.request.operationId)
      (hrun : claim.agentRunId = row.request.agentRunId)
      (hdrawn : db.uuidsDrawn ≤ db'.uuidsDrawn)
      (hruns : KeepsRuns row.request.agentRunId db db') :
      Change env db now (.claimNextRuntimeControl workerId leaseDurationMs skipped)
        (.controlClaim (.claimed claim)) db'
  | completed {operationId workerId : String} {outcome : PersistentOutcome}
      {controlRequestId : Option String} {completion : DecisionTaskCompletion}
      {row : Operation} {decoded : DecodedOutcome} {settle : Operation → Operation}
      {db' : Store}
      (hrow : db.operations.find? operationId = some row)
      (hdecoded : decodePersistentOutcome outcome = .ok decoded)
      (hcompletable : row.completableBy workerId decoded now = true)
      (hsettle : Settles decoded settle)
      (hcommitted : completion ≠ .notCompletable)
      (hops : db'.operations = db.operations.update operationId settle hsettle.operationId)
      (hreqs : db'.controlRequests = finishRequests controlRequestId operationId workerId
        decoded.payload now db.controlRequests)
      (hdrawn : db.uuidsDrawn ≤ db'.uuidsDrawn)
      (hruns : KeepsRuns row.agentRunId db db')
      (hobservable : (settle row).observable = true) :
      Change env db now (.complete operationId workerId outcome controlRequestId)
        (.completion completion) db'
  | resumeRequested {input : RuntimeResumeRequestInput} {operation : Operation}
      {status : Option RuntimeControlStatus} {db' : Store}
      (hoperation : operation ∈ db.operations)
      (hpaused : operation.state.isPaused = true)
      (hops : db'.operations = db.operations)
      (hreqs : db.controlRequests.insert? (resumeRequest input operation now) =
        some db'.controlRequests)
      (hdrawn : db.uuidsDrawn ≤ db'.uuidsDrawn)
      (hruns : KeepsRuns operation.agentRunId db db') :
      Change env db now (.requestRuntimeResume input) (.controlStatus status) db'
  | cancelled {input : RuntimeCancelRequestInput} {operation : Operation}
      {status : Option RuntimeControlStatus} {db' : Store}
      (hoperation : operation ∈ db.operations)
      (hops : db'.operations = db.operations.update operation.operationId
        (cancelledOperation now) (cancelledOperation_operationId now))
      (hreqs : db.controlRequests.insert? (cancelRequest input operation now) =
        some db'.controlRequests)
      (hdrawn : db.uuidsDrawn ≤ db'.uuidsDrawn)
      (hruns : KeepsRuns operation.agentRunId db db')
      (hopen : operation.state.isFinal = false)
      (hcancels : CancelsRow db.controlStates db'.controlStates operation.agentRunId) :
      Change env db now (.requestRuntimeCancel input) (.controlStatus status) db'
  | purged {ownerUserId : String} {result : PurgeResult} {db' : Store}
      (hops : db'.operations = db.operations.deleteWhere fun row =>
        row.operationId ∈ (db.purgeScope ownerUserId).operationIds)
      (hreqs : db'.controlRequests = db.controlRequests.deleteWhere fun row =>
        row.operationId ∈ (db.purgeScope ownerUserId).operationIds)
      (hruns : db'.agentRuns = db.agentRuns.deleteWhere fun row =>
        row.operationId ∈ (db.purgeScope ownerUserId).operationIds)
      (hevents : db'.runEvents = db.runEvents.deleteWhere fun row =>
        row.event.agentRunId ∈ (db.purgeScope ownerUserId).agentRunIds)
      (hdrawn : db.uuidsDrawn ≤ db'.uuidsDrawn)
      (hsubmissions : db'.submissions = db.submissions.deleteWhere fun row =>
        row.ownerUserId = ownerUserId)
      (houtbox : SameOutbox db db') :
      Change env db now (.purgePrivateDataForOwner ownerUserId) (.purged result) db'

section Submit
variable {env : Environment} {command : ExecuteDecisionTaskCommand} {ownerUserId : String}
  {submittedAt : Instant} {db db' : Store} {snapshot : DecisionTaskSnapshot}

theorem submit_change (h : submit env command ownerUserId submittedAt db = .ok (snapshot, db')) :
    Change env db submittedAt (.submit command ownerUserId) (.submitted snapshot) db' := by
  rcases submit_ok h with rfl | hinsert
  · exact .frame (.refl db') rfl
  · obtain ⟨submissions, operations, agentRuns, outbox, hsubmissions, hoperations, hagentRuns,
      houtbox, happends, hfresh, hunattempted, hunsent⟩ := insertSubmission_ok hinsert
    refine .submitted ?_ happends.controlRequests ?_ ⟨⟨1, submittedAt, ?_⟩, ?_,
      happends.logGrows.of_start rfl rfl, ?_, ?_, ?_, ?_⟩ ?_ hfresh
      ⟨⟨env.randomUUID (db.uuidsDrawn + 2), env.randomUUID (db.uuidsDrawn + 1), 0, submittedAt,
        none, submittedAt⟩, ?_, hunsent⟩
    · rw [happends.operations]
      exact hoperations
    · have hdrawn := happends.drawn_le
      simp only at hdrawn
      omega
    · rw [happends.agentRuns]
      exact hagentRuns
    · refine ⟨_, List.cons_ne_nil _ _, happends.events_eq, ?_⟩
      intro event hevent
      rw [List.mem_singleton.mp hevent]
      rfl
    · intro events hadded
      rw [← List.append_cancel_left (happends.events_eq.symm.trans hadded)]
      rfl
    · intro events hadded
      rw [← List.append_cancel_left (happends.events_eq.symm.trans hadded)]
      rfl
    · rw [happends.agentRuns]
      intro run hrun
      rcases (Table.mem_insert? hagentRuns).mp hrun with hold | rfl
      · exact .inl hold
      · exact .inr (.inl rfl)
    · rw [happends.agentRuns]
      intro run hrun
      rcases (Table.mem_insert? hagentRuns).mp hrun with hold | rfl
      · exact .inl hold
      · exact .inr hunattempted
    · rw [happends.submissions]
      exact hsubmissions
    · rw [happends.outbox]
      exact houtbox

end Submit

section Claim
variable {env : Environment} {operationId workerId : String} {leaseDurationMs : Nat}
  {now : Instant} {db db' : Store} {row : Operation}

theorem claimNext_change {result : DecisionTaskClaimResult}
    (h : claimNext env operationId workerId leaseDurationMs now db = .ok (result, db')) :
    Change env db now (.claimNext operationId workerId leaseDurationMs) (.claim result) db' := by
  rcases claimNext_ok h with ⟨hresult, rfl⟩ |
    ⟨row, claim, db₁, hrow, hclaimable, rfl, rfl, hrun, -, hrecord⟩
  · refine .frame (.refl _) ?_
    cases result with
    | claimed claim => exact absurd rfl (hresult claim)
    | deferred => rfl
    | unknown => rfl
    | alreadyFinished => rfl
  · have happends := recordRunning_ok hrecord
    have hdrawn := happends.drawn_le
    simp only at hdrawn
    rcases claimAgentRun_ok hrun with
      ⟨hstate, hid, rfl⟩ | ⟨hstate, hid, agentRuns, hagentRuns, hretry, hunattempted⟩
    · refine .claimed hrow hclaimable happends.operations happends.controlRequests
        (.current hstate hid hdrawn (.of_appends happends rfl rfl rfl rfl rfl
          agentRunId_runningEvents fun event hevent hcreated => ?_))
      rw [taskState_runningEvents event hevent] at hcreated
      cases hcreated
    · refine .claimed hrow hclaimable ?_ ?_ (.retried hstate hid ?_
        ⟨⟨db.nextAttempt row.operationId, now, ?_⟩, ?_,
          (hretry.logGrows.of_start rfl rfl).trans (happends.logGrows.of_start rfl rfl), ?_, ?_, ?_,
          ?_⟩ ?_ (.of_eq (happends.outbox.trans hretry.outbox)))
      · rw [happends.operations]
        simp only [hretry.operations]
      · rw [happends.controlRequests]
        simp only [hretry.controlRequests]
      · have hdrawn' := hretry.drawn_le
        simp only at hdrawn'
        omega
      · rw [happends.agentRuns]
        simp only [hretry.agentRuns]
        exact hagentRuns
      · have hlog : db'.events = db₁.events ++ _ := happends.events_eq
        rw [hretry.events_eq, List.append_assoc] at hlog
        refine ⟨_, List.append_ne_nil_of_left_ne_nil (List.cons_ne_nil _ _) _, hlog, ?_⟩
        intro event hevent
        rcases List.mem_append.mp hevent with hfirst | hsecond
        · rw [List.mem_singleton.mp hfirst]
          exact hid.symm
        · exact agentRunId_runningEvents event hsecond
      · intro events hadded
        have hlog : db'.events = db₁.events ++ _ := happends.events_eq
        rw [hretry.events_eq, List.append_assoc] at hlog
        rw [← List.append_cancel_left (hlog.symm.trans hadded), List.filter_append,
          filter_runningEvents, List.append_nil]
        rfl
      · intro events hadded
        have hlog : db'.events = db₁.events ++ _ := happends.events_eq
        rw [hretry.events_eq, List.append_assoc] at hlog
        rw [← List.append_cancel_left (hlog.symm.trans hadded)]
        rfl
      · rw [happends.agentRuns]
        simp only [hretry.agentRuns]
        intro run hrun
        rcases (Table.mem_insert? hagentRuns).mp hrun with hold | rfl
        · exact .inl hold
        · exact .inr (.inr rfl)
      · rw [happends.agentRuns]
        simp only [hretry.agentRuns]
        intro run hrun
        rcases (Table.mem_insert? hagentRuns).mp hrun with hold | rfl
        · exact .inl hold
        · exact .inr hunattempted
      · rw [happends.submissions]
        exact hretry.submissions

theorem claimNextRuntimeControl_change {skipped : List String}
    {result : RuntimeControlClaimResult}
    (h : claimNextRuntimeControl env workerId leaseDurationMs skipped now db =
      .ok (result, db')) :
    Change env db now (.claimNextRuntimeControl workerId leaseDurationMs skipped)
      (.controlClaim result) db' := by
  rcases claimNextRuntimeControl_ok h with ⟨rfl, rfl⟩ | ⟨row, hnext, hclaimed⟩
  · exact .frame (.refl _) rfl
  obtain ⟨hrequest, -, hclaimable, hoperation, -⟩ := nextControlRow_ok hnext
  cases hclaimed with
  | rejected code message hmessage =>
    exact .controlRejected hrequest hclaimable rfl rfl (le_refl _)
      (.of_eq _ rfl rfl rfl (le_refl _) (.of_eq rfl)) (.inl rfl)
      hmessage
  | @manual snapshot _ _ hconsistent hfacts hdecision happends =>
    refine .controlRejected hrequest hclaimable happends.operations happends.controlRequests
      happends.drawn_le (.of_appends happends rfl rfl rfl rfl rfl ?_ ?_)
      (.inr ⟨row, rfl, hoperation, hconsistent⟩) (by decide)
    · intro event hevent
      rw [List.mem_singleton.mp hevent]
      rfl
    · intro event hevent hcreated
      have hpaused := taskState_of_manual hdecision
      rw [List.mem_singleton.mp hevent] at hcreated
      rw [show snapshot.taskState = .created from hcreated] at hpaused
      cases hpaused
  | leased hconsistent hfacts hdecision hid hrun happends =>
    refine .controlClaimed hrequest hclaimable hoperation hconsistent happends.operations
      happends.controlRequests hid hrun happends.drawn_le
      (.of_appends happends rfl rfl rfl rfl rfl agentRunId_resumingEvents ?_)
    intro event hevent hcreated
    rw [taskState_resumingEvents event hevent] at hcreated
    cases hcreated

end Claim

section Complete
variable {env : Environment} {now : Instant} {db db' : Store}

theorem settles_rewrite (now : Instant) {outcome : PersistentOutcome}
    {decoded : DecodedOutcome} {stored : Operation} {rewrite : Operation → Operation}
    (hdecoded : decodePersistentOutcome outcome = .ok decoded)
    (hrewrite : Rewrites stored outcome rewrite) :
    Settles decoded fun row => rewrite (completedRow row decoded now) := by
  have hpayload := decodePersistentOutcome_payload hdecoded
  cases hrewrite with
  | paused hsnapshot updatedAt =>
    obtain ⟨-, rfl⟩ := decodePersistentOutcome_paused hdecoded
    refine ⟨fun _ => rfl, fun _ => rfl, fun _ => rfl, fun _ => rfl, fun _ => rfl, fun _ => rfl, ?_⟩
    intro row paused hpaused
    cases (decodePausedPayload_eq_some hpaused).1
    rw [hsnapshot]
    exact ⟨rfl, rfl⟩
  | result updatedAt =>
    refine ⟨fun _ => rfl, fun _ => rfl, fun _ => rfl, fun _ => rfl, fun _ => rfl, fun _ => rfl, ?_⟩
    intro row paused hpaused
    cases hpaused
  | failure =>
    refine ⟨fun _ => rfl, fun _ => rfl, fun _ => rfl, fun _ => rfl, fun _ => rfl, fun _ => rfl, ?_⟩
    intro row paused hpaused
    have hstored := (decodePausedPayload_eq_some hpaused).1
    simp only [id, completedRow, hpayload] at hstored
    cases hstored

theorem toTaskSnapshot_plain {row : Operation} (hpaused : row.state.isPaused = false)
    (hcompleted : row.state ≠ .completed) : (toTaskSnapshot row).isOk = true := by
  unfold toTaskSnapshot
  cases hstate : row.state with
  | paused reason =>
    rw [hstate] at hpaused
    cases hpaused
  | completed => exact absurd hstate hcompleted
  | _ => rfl

theorem observable_of_snapshot {row : Operation} (h : (toTaskSnapshot row).isOk = true) :
    row.observable = true := by
  unfold Operation.observable
  split
  · rename_i hstate _
    simp only [toTaskSnapshot, hstate] at h
    cases h
  · rename_i hstate _
    simp only [toTaskSnapshot, hstate] at h
    cases h
  · exact h

theorem observable_plain {row : Operation} (hpaused : row.state.isPaused = false)
    (hcompleted : row.state ≠ .completed) : row.observable = true :=
  observable_of_snapshot (toTaskSnapshot_plain hpaused hcompleted)

/-- What a completion stores can be read back. -/
theorem observable_rewrite {outcome : PersistentOutcome} {decoded : DecodedOutcome}
    {row : Operation} {rewrite : Operation → Operation}
    (hdecoded : decodePersistentOutcome outcome = .ok decoded)
    (hrewrite : Rewrites (completedRow row decoded now) outcome rewrite) :
    (rewrite (completedRow row decoded now)).observable = true := by
  cases hrewrite with
  | paused hsnapshot updatedAt hreadable => exact observable_of_snapshot hreadable
  | @result outcome persisted updatedAt hreadable =>
    have hstored : decodePersistedResult persisted
        (rewriteResult (.result persisted) updatedAt (completedRow row decoded now)) =
        .ok persisted := hreadable
    rcases (decodePersistentOutcome_result hdecoded).2 with ⟨value, -, rfl⟩ | ⟨value, -, rfl⟩
    · unfold Operation.observable
      change (decodePersistedResult persisted _).isOk = true
      rw [hstored]
      rfl
    · exact observable_plain rfl nofun
  | @failure outcome =>
    obtain rfl := decodePersistentOutcome_failure hdecoded
    obtain ⟨hpaused, hcompleted⟩ : outcome.state.toOperationState.isPaused = false ∧
        outcome.state.toOperationState ≠ .completed := by
      cases outcome.state <;> exact ⟨rfl, nofun⟩
    exact observable_plain hpaused hcompleted

theorem complete_change {operationId workerId : String} {outcome : PersistentOutcome}
    {controlRequestId : Option String} {completion : DecisionTaskCompletion}
    (h : complete env operationId workerId outcome controlRequestId now db =
      .ok (completion, db')) :
    Change env db now (.complete operationId workerId outcome controlRequestId)
      (.completion completion) db' := by
  rcases complete_ok h with ⟨rfl, rfl⟩ |
    ⟨hcommitted, row, decoded, db₁, hrow, hdecoded, hcompletable, hpersist, -, rfl⟩
  · exact .frame (.refl _) rfl
  rw [decodePersistentOutcome_payload hdecoded] at hpersist
  obtain ⟨-, rewrite, hrewrite, db₂, happends, rfl⟩ := persistOutcome_ok hpersist
  have hkey := (Table.find?_eq_some.mp hrow).2
  have hsettles := settles_rewrite now hdecoded hrewrite
  have hkeeps : KeepsRuns row.agentRunId db db₂ :=
    .of_appends happends rfl rfl rfl rfl rfl agentRunId_outcomeEvents
      fun event hevent hcreated => by
        have hnone := created_outcomeEvents event hevent hcreated
        exact ⟨row, (Table.find?_eq_some.mp hrow).1, rfl, hnone⟩
  refine .completed hrow hdecoded hcompletable hsettles hcommitted ?_ ?_ happends.drawn_le
    ⟨hkeeps.submissions, hkeeps.agentRuns, hkeeps.events, hkeeps.cursors, hkeeps.created,
      hkeeps.outbox⟩
    (observable_rewrite hdecoded hrewrite)
  · simp only [happends.operations]
    rw [show (completedRow row decoded now).operationId = operationId from hkey]
    exact Table.update_update
  · simp only [happends.controlRequests]

end Complete

section Requests
variable {env : Environment} {now : Instant} {db db' : Store}
  {status : Option RuntimeControlStatus}

theorem requestRuntimeResume_change {input : RuntimeResumeRequestInput}
    (h : requestRuntimeResume input now db = .ok (status, db')) :
    Change env db now (.requestRuntimeResume input) (.controlStatus status) db' := by
  rcases requestRuntimeResume_ok h with rfl | ⟨operation, hlatest, hpaused, hinsert⟩
  · exact .frame (.refl _) rfl
  · obtain ⟨-, controlRequests, hrequests, rfl⟩ := insertControlRequest_ok hinsert
    exact .resumeRequested (latestOperation_mem hlatest).1 hpaused rfl hrequests (le_refl _)
      (.of_eq _ rfl rfl rfl (le_refl _) (.of_eq rfl))

theorem requestRuntimeCancel_change {input : RuntimeCancelRequestInput}
    (h : requestRuntimeCancel env input now db = .ok (status, db')) :
    Change env db now (.requestRuntimeCancel input) (.controlStatus status) db' := by
  rcases requestRuntimeCancel_ok h with rfl |
    ⟨operation, controlRequests, controlStates, hlatest, hopen, hrequests, hcancels, happends⟩
  · exact .frame (.refl _) rfl
  · refine .cancelled (latestOperation_mem hlatest).1 happends.operations ?_ happends.drawn_le
      (.of_appends happends rfl rfl rfl rfl rfl ?_ ?_) hopen ?_
    · rw [happends.controlRequests]
      exact hrequests
    · intro event hevent
      rw [List.mem_singleton.mp hevent]
      rfl
    · intro event hevent hcreated
      rw [List.mem_singleton.mp hevent] at hcreated
      cases hcreated
    · rw [happends.controlStates]
      exact hcancels

theorem purge_change {ownerUserId : String} {result : PurgeResult}
    (h : purgePrivateDataForOwner env ownerUserId db = .ok (result, db')) :
    Change env db now (.purgePrivateDataForOwner ownerUserId) (.purged result) db' := by
  rw [purgePrivateDataForOwner_ok h]
  refine .purged rfl rfl rfl rfl (le_refl _) rfl fun message hmessage => ?_
  exact ⟨message, (Table.mem_deleteWhere.mp hmessage).1, rfl, rfl⟩

end Requests

section Perform
variable {env : Environment} {now : Instant} {db db' : Store} {action : Action} {reply : Reply}

/-- Every action that commits is one of the listed changes. -/
theorem perform_change (h : perform env now db action = .ok (reply, db')) :
    Change env db now action reply db' := by
  cases action with
  | publishNext retryDelayMs republishDelayMs delivered skipped =>
    simp only [perform] at h
    cases h
    obtain ⟨outbox, hframe, hsame⟩ :=
      publishNext_frame env retryDelayMs republishDelayMs delivered skipped now db
    refine .frame ?_ rfl
    rw [hframe]
    exact ⟨rfl, rfl, rfl, rfl, rfl, le_refl _, le_refl _, hsame⟩
  | deleteEncryptedCredential key =>
    cases h
    exact .frame ⟨rfl, rfl, rfl, rfl, rfl, le_refl _, le_refl _, .of_eq rfl⟩ rfl
  | saveEvidence row =>
    cases h
    obtain ⟨evidenceIndex, hframe, -⟩ := saveEvidence_eq row db
    refine .frame ?_ rfl
    rw [hframe]
    exact ⟨rfl, rfl, rfl, rfl, rfl, le_refl _, le_refl _, .of_eq rfl⟩
  | skipCursors count =>
    cases h
    exact .frame ⟨rfl, rfl, rfl, rfl, rfl, le_refl _, Nat.le_add_right _ _, .of_eq rfl⟩ rfl
  | submit command ownerUserId =>
    simp only [perform, bind_eq_ok] at h
    obtain ⟨⟨snapshot, _⟩, hsubmit, h⟩ := h
    cases h
    exact submit_change hsubmit
  | claimNext operationId workerId leaseDurationMs =>
    simp only [perform, bind_eq_ok] at h
    obtain ⟨⟨result, _⟩, hclaim, h⟩ := h
    cases h
    exact claimNext_change hclaim
  | claimNextRuntimeControl workerId leaseDurationMs skipped =>
    simp only [perform, bind_eq_ok] at h
    obtain ⟨⟨result, _⟩, hclaim, h⟩ := h
    cases h
    exact claimNextRuntimeControl_change hclaim
  | complete operationId workerId outcome controlRequestId =>
    simp only [perform, bind_eq_ok] at h
    obtain ⟨⟨completion, _⟩, hcomplete, h⟩ := h
    cases h
    exact complete_change hcomplete
  | requestRuntimeResume input =>
    simp only [perform, bind_eq_ok] at h
    obtain ⟨⟨status, _⟩, hrequest, h⟩ := h
    cases h
    exact requestRuntimeResume_change hrequest
  | requestRuntimeCancel input =>
    simp only [perform, bind_eq_ok] at h
    obtain ⟨⟨status, _⟩, hrequest, h⟩ := h
    cases h
    exact requestRuntimeCancel_change hrequest
  | purgePrivateDataForOwner ownerUserId =>
    simp only [perform, bind_eq_ok] at h
    obtain ⟨⟨result, _⟩, hpurge, h⟩ := h
    cases h
    exact purge_change hpurge
  | putRawSnapshot payload =>
    simp only [perform, bind_eq_ok] at h
    obtain ⟨⟨reference, _⟩, hput, h⟩ := h
    cases h
    obtain ⟨_, -, rfl⟩ := putRawSnapshot_ok hput
    exact .frame ⟨rfl, rfl, rfl, rfl, rfl, le_refl _, le_refl _, .of_eq rfl⟩ rfl
  | putEffectResult identity payload =>
    simp only [perform, bind_eq_ok] at h
    obtain ⟨⟨reference, _⟩, hput, h⟩ := h
    cases h
    obtain ⟨_, _, -, -, rfl⟩ := putEffectResult_ok hput
    exact .frame ⟨rfl, rfl, rfl, rfl, rfl, le_refl _, le_refl _, .of_eq rfl⟩ rfl
  | saveRecoveryFacts snapshot effectReceipts =>
    simp only [perform, bind_eq_ok] at h
    obtain ⟨_, hsave, h⟩ := h
    cases h
    obtain ⟨-, -, _, _, _, rfl, -⟩ := saveRecoveryFacts_ok hsave
    exact .frame ⟨rfl, rfl, rfl, rfl, rfl, le_refl _, le_refl _, .of_eq rfl⟩ rfl
  | recordRuntimeRunning agentRunId controllerId leaseDurationMs =>
    simp only [perform, bind_eq_ok] at h
    obtain ⟨_, hrecord, h⟩ := h
    cases h
    obtain ⟨_, rfl, -⟩ := recordRuntimeRunning_ok hrecord
    exact .frame ⟨rfl, rfl, rfl, rfl, rfl, le_refl _, le_refl _, .of_eq rfl⟩ rfl
  | claimRuntimeResume agentRunId snapshotId controllerId leaseDurationMs =>
    simp only [perform, bind_eq_ok] at h
    obtain ⟨⟨claim, _⟩, hclaim, h⟩ := h
    cases h
    obtain ⟨_, rfl, -⟩ := claimRuntimeResume_ok hclaim
    exact .frame ⟨rfl, rfl, rfl, rfl, rfl, le_refl _, le_refl _, .of_eq rfl⟩ rfl
  | completeRuntimeControl agentRunId controllerId expected next state runEvents =>
    simp only [perform, bind_eq_ok] at h
    obtain ⟨_, hcomplete, h⟩ := h
    cases h
    obtain ⟨_, rfl, -⟩ := completeRuntimeControl_ok hcomplete
    exact .frame ⟨rfl, rfl, rfl, rfl, rfl, le_refl _, le_refl _, .of_eq rfl⟩ rfl
  | claimRuntimeCancel agentRunId cancellationId runEvents =>
    simp only [perform, bind_eq_ok] at h
    obtain ⟨⟨claim, _⟩, hclaim, h⟩ := h
    cases h
    obtain ⟨_, rfl, -⟩ := claimRuntimeCancel_ok hclaim
    exact .frame ⟨rfl, rfl, rfl, rfl, rfl, le_refl _, le_refl _, .of_eq rfl⟩ rfl
  | appendEgressRecord record =>
    simp only [perform, bind_eq_ok] at h
    obtain ⟨_, happend, h⟩ := h
    cases h
    obtain ⟨_, -, rfl⟩ := appendEgressRecord_ok happend
    exact .frame ⟨rfl, rfl, rfl, rfl, rfl, le_refl _, le_refl _, .of_eq rfl⟩ rfl
  | appendAuditRecord record =>
    simp only [perform, bind_eq_ok] at h
    obtain ⟨_, happend, h⟩ := h
    cases h
    obtain ⟨_, -, rfl⟩ := appendAuditRecord_ok happend
    exact .frame ⟨rfl, rfl, rfl, rfl, rfl, Nat.le_succ _, le_refl _, .of_eq rfl⟩ rfl
  | saveEncryptedCredential key envelope =>
    simp only [perform, bind_eq_ok] at h
    obtain ⟨_, hsave, h⟩ := h
    cases h
    obtain ⟨_, rfl, -⟩ := saveEncryptedCredential_ok hsave
    exact .frame ⟨rfl, rfl, rfl, rfl, rfl, le_refl _, le_refl _, .of_eq rfl⟩ rfl

theorem step_change (h : step env db (now, action) = some (reply, db')) :
    Change env db now action reply db' := by
  rcases step_cases h with hperform | ⟨⟨error, rfl⟩, rfl⟩
  · exact perform_change hperform
  · exact .frame (.refl _) rfl

end Perform

end ChoiceMind.TaskPersistence
