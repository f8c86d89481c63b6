import ChoiceMind.TaskPersistence.EventLog

/-!
# Operation state and event log agree

Each action as a change of the log, and the runs in which every operation agrees with the
log of its current run.
-/

namespace ChoiceMind.TaskPersistence

set_option autoImplicit false

open Contracts Transition

variable {env : Environment} {now : Instant} {db db' : Store}

section Claim
variable {operationId workerId : String} {leaseDurationMs : Nat}

theorem submit_log {command : ExecuteDecisionTaskCommand} {ownerUserId : String}
    {snapshot : DecisionTaskSnapshot} (hlogged : Logged env db)
    (h : submit env command ownerUserId now db = .ok (snapshot, db')) :
    ∃ agreed, LogChange env db db' agreed ∧ agreed := by
  rcases submit_ok h with rfl | hinsert
  · exact ⟨_, .kept (fun _ hrow => hrow) (fun _ _ => rfl) (fun _ hevent => hevent) (le_refl _),
      trivial⟩
  obtain ⟨_, operations, _, _, -, hoperations, -, -, happends, -⟩ := insertSubmission_ok hinsert
  have hdrawn : db.uuidsDrawn + 3 ≤ db'.uuidsDrawn := happends.drawn_le
  have hfresh : (acceptedOperation env command now db).agentRunId =
    "agent-run-" ++ env.randomUUID db.uuidsDrawn := rfl
  refine ⟨_, .changed (acceptedOperation env command now db) ?_ happends.events_eq
    (.single rfl rfl ?_) (by omega) (.inl ⟨hfresh, by omega⟩), lastTaskState_concat _ _⟩
  · intro r hr
    rw [happends.operations] at hr
    rcases (Table.mem_insert? hoperations).mp hr with hold | rfl
    · exact .inr ⟨hold, Table.key_fresh_of_insert? hoperations r hold⟩
    · exact .inl rfl
  · rw [show db.runEventsOf _ _ = [] from currentLog_fresh hlogged (acceptedOperation env command now db)
      hfresh]
    rfl

/-- What a claim appends ends with the state of a running operation. -/
theorem lastTaskState_runningEvents (decisionTaskId agentRunId : String) :
    lastTaskState (db.runEventsOf decisionTaskId agentRunId ++
      runningEvents env decisionTaskId agentRunId now db) = some .understanding := by
  unfold runningEvents
  simp only
  split
  · exact lastTaskState_concat _ _
  · rename_i hlast
    rw [List.append_nil]
    exact not_not.mp hlast

theorem runningEvents_continue (row : Operation) :
    Continues db row (runningEvents env row.decisionTaskId row.agentRunId now db) := by
  unfold runningEvents
  simp only
  split
  · exact .single rfl rfl rfl
  · exact .nil db row

/-- The log of a fresh run when the claim that opened it reads it back. -/
theorem runEventsOf_retried {row : Operation} {agentRuns : Table AgentRun.agentRunId}
    (hlogged : Logged env db)
    (h : Appends { db with agentRuns, uuidsDrawn := db.uuidsDrawn + 1 }
      [retryEvent env row now db] db') :
    db'.runEventsOf row.decisionTaskId ("agent-run-" ++ env.randomUUID db.uuidsDrawn) =
      [retryEvent env row now db] := by
  have hevents : db'.runEvents.rows.map RunEventRow.event =
      db.events ++ [retryEvent env row now db] := h.events_eq
  unfold Store.runEventsOf
  rw [hevents, List.filter_append, hlogged.filter_fresh]
  simp [retryEvent, taskEvent]

/-- A retry writes the first two events of its fresh run. -/
theorem retried_log {row : Operation} {agentRunId : String} {expiry : Instant}
    {agentRuns : Table AgentRun.agentRunId} {db₁ : Store} (hlogged : Logged env db)
    (hrow : db.operations.find? operationId = some row)
    (hid : agentRunId = "agent-run-" ++ env.randomUUID db.uuidsDrawn)
    (hretry : Appends { db with agentRuns, uuidsDrawn := db.uuidsDrawn + 1 }
      [retryEvent env row now db] db₁)
    (happends : Appends
      { db₁ with
        operations := db₁.operations.update operationId
          (leaseOperation agentRunId workerId expiry now) }
      (runningEvents env row.decisionTaskId agentRunId now db₁) db') :
    ∃ agreed, LogChange env db db' agreed ∧ agreed := by
  obtain ⟨hmem, hkey⟩ := Table.find?_eq_some.mp hrow
  have hread : db₁.runEventsOf row.decisionTaskId agentRunId = [retryEvent env row now db] := by
    rw [hid]
    exact runEventsOf_retried hlogged hretry
  have hrunning : runningEvents env row.decisionTaskId agentRunId now db₁ =
      [taskEvent env row.decisionTaskId agentRunId 2 .taskStateChanged .understanding
        "决策任务开始执行" now db₁] := by
    unfold runningEvents
    rw [hread]
    rfl
  rw [hrunning] at happends
  have hdrawn : db.uuidsDrawn + 1 ≤ db₁.uuidsDrawn := hretry.drawn_le
  have hdrawn' : db₁.uuidsDrawn ≤ db'.uuidsDrawn := happends.drawn_le
  have hops : db'.operations = db.operations.update operationId
      (leaseOperation agentRunId workerId expiry now) := by
    rw [happends.operations]
    simp only [hretry.operations]
  have hevents : db'.events = db.events ++ [retryEvent env row now db,
      taskEvent env row.decisionTaskId agentRunId 2 .taskStateChanged .understanding
        "决策任务开始执行" now db₁] := by
    have hfirst : db₁.events = db.events ++ [retryEvent env row now db] := hretry.events_eq
    have hsecond : db'.events = db₁.events ++ [taskEvent env row.decisionTaskId agentRunId 2
      .taskStateChanged .understanding "决策任务开始执行" now db₁] := happends.events_eq
    rw [hsecond, hfirst, List.append_assoc]
    rfl
  refine ⟨_, .changed (leaseOperation agentRunId workerId expiry now row) ?_ hevents ?_ (by omega)
    (.inl ⟨hid, by omega⟩), ?_⟩
  · intro r hr
    rw [hops] at hr
    rw [show (leaseOperation agentRunId workerId expiry now row).operationId = operationId
      from hkey]
    exact Table.mem_update_of_find? hrow hr
  · refine ⟨?_, ?_, ?_⟩
    · simp [retryEvent, taskEvent, leaseOperation, hid]
    · simp [retryEvent, taskEvent, leaseOperation]
    · have hempty : db.runEventsOf row.decisionTaskId agentRunId = [] :=
        currentLog_fresh hlogged (leaseOperation agentRunId workerId expiry now row) hid
      simp only [leaseOperation, hempty]
      rfl
  · rw [← List.singleton_append, ← List.append_assoc]
    exact lastTaskState_concat _ _

theorem claimNext_log {result : DecisionTaskClaimResult} (hlogged : Logged env db)
    (h : claimNext env operationId workerId leaseDurationMs now db = .ok (result, db')) :
    ∃ agreed, LogChange env db db' agreed ∧ agreed := by
  rcases claimNext_ok h with ⟨-, rfl⟩ |
    ⟨row, claim, db₁, hrow, -, -, -, hrun, -, hrecord⟩
  · exact ⟨_, .kept (fun _ hrow => hrow) (fun _ _ => rfl) (fun _ hevent => hevent) (le_refl _),
      trivial⟩
  have happends := recordRunning_ok hrecord
  rcases claimAgentRun_ok hrun with ⟨-, hid, rfl⟩ | ⟨-, hid, agentRuns, -, hretry, -⟩
  · obtain ⟨hmem, hkey⟩ := Table.find?_eq_some.mp hrow
    refine ⟨_, .changed (leaseOperation claim.agentRunId workerId (now + leaseDurationMs) now row)
      ?_ happends.events_eq ?_ happends.drawn_le (.inr ⟨row, hmem, rfl, hid.symm, rfl⟩), ?_⟩
    · intro r hr
      have hops : db'.operations = db₁.operations.update operationId
        (leaseOperation claim.agentRunId workerId (now + leaseDurationMs) now) :=
        happends.operations
      rw [hops] at hr
      rw [show (leaseOperation claim.agentRunId workerId (now + leaseDurationMs) now
        row).operationId = operationId from hkey]
      exact Table.mem_update_of_find? hrow hr
    · exact runningEvents_continue (leaseOperation claim.agentRunId workerId _ now row)
    · have hlog := hlogged.currentLog hmem
      simp only [leaseOperation]
      rw [hid, ← hlog]
      exact lastTaskState_runningEvents _ _
  · exact retried_log hlogged hrow hid hretry happends

end Claim

section Control
variable {workerId : String} {leaseDurationMs : Nat} {row : RuntimeControlClaimRow}

/-- A denial for manual verification appends the state that the operation is in. -/
def Store.deniesInState (env : Environment) (db : Store) (row : RuntimeControlClaimRow) : Bool :=
  !row.consistent || (db.decodedFacts env row.request).all fun (snapshot, effectReceipts) =>
    (evaluateRuntimeRecoveryPermissionV1 snapshot effectReceipts).decision ≠
        .manualVerificationRequired ||
      snapshot.taskState = row.operation.state.taskState

theorem controlClaimed_log {result : RuntimeControlClaimResult} (hlogged : Logged env db)
    (hoperation : db.operations.find? row.request.operationId = some row.operation)
    (h : ControlClaimed env row workerId leaseDurationMs now db result db') :
    ∃ agreed, LogChange env db db' agreed ∧
      (db.deniesInState env row = true → db.agrees row.operation → agreed) := by
  obtain ⟨hmem, hkey⟩ := Table.find?_eq_some.mp hoperation
  cases h with
  | rejected code message =>
    exact ⟨_, .kept (fun _ hrow => hrow) (fun _ _ => rfl) (fun _ hevent => hevent) (le_refl _),
      fun _ _ => trivial⟩
  | @manual snapshot effectReceipts _ hconsistent hfacts hdecision happends =>
    obtain ⟨hrun, htask⟩ := hlogged.known.consistent hmem hconsistent
    refine ⟨_, .changed row.operation ?_ happends.events_eq ?_ happends.drawn_le
      (.inr ⟨row.operation, hmem, rfl, rfl, rfl⟩), ?_⟩
    · intro r hr
      rw [happends.operations] at hr
      by_cases hsame : r.operationId = row.operation.operationId
      · exact .inl (Table.eq_of_key_eq hr hmem hsame)
      · exact .inr ⟨hr, hsame⟩
    · refine .single hrun htask ?_
      rw [← hrun, ← htask]
      rfl
    · intro hdenies _
      simp only [Store.deniesInState, hconsistent, hfacts, hdecision, Bool.not_true,
        Bool.false_or, Option.all_some, ne_eq, not_true_eq_false, decide_false,
        decide_eq_true_eq] at hdenies
      rw [lastTaskState_concat, ← hdenies]
      rfl
  | @leased snapshot effectReceipts claim _ hconsistent hfacts hdecision hid hclaimRun happends =>
    obtain ⟨hrun, htask⟩ := hlogged.known.consistent hmem hconsistent
    refine ⟨_, .changed
      (leaseOperation row.operation.agentRunId workerId (now + leaseDurationMs) now
        row.operation) ?_ happends.events_eq ?_ happends.drawn_le
      (.inr ⟨row.operation, hmem, rfl, rfl, rfl⟩), ?_⟩
    · intro r hr
      have hops : db'.operations = db.operations.update row.request.operationId fun operation =>
        leaseOperation operation.agentRunId workerId (now + leaseDurationMs) now operation :=
        happends.operations
      rw [hops] at hr
      rw [show (leaseOperation row.operation.agentRunId workerId (now + leaseDurationMs) now
        row.operation).operationId = row.request.operationId from hkey]
      have hcases := Table.mem_update_of_find? hoperation hr
      exact hcases
    · unfold resumingEvents
      split
      · exact .nil _ _
      · refine .single hrun htask ?_
        simp only [leaseOperation]
        rw [← hrun, ← htask]
        rfl
    · intro _ hagrees
      unfold resumingEvents
      split
      · -- a reclaimed request: the operation was running before
        rename_i hstate
        rcases consistent_state hconsistent with ⟨-, hrunning⟩ | ⟨hother, -⟩
        · rw [Store.agrees, hrunning] at hagrees
          rw [List.append_nil]
          exact hagrees
        · exact absurd hstate hother
      · exact lastTaskState_concat _ _

theorem claimNextRuntimeControl_log {skipped : List String} {result : RuntimeControlClaimResult}
    (hlogged : Logged env db)
    (h : claimNextRuntimeControl env workerId leaseDurationMs skipped now db =
      .ok (result, db')) :
    ∃ agreed, LogChange env db db' agreed ∧
      ((∀ row ∈ db.nextControlRow env now skipped, db.deniesInState env row = true) →
        (∀ operation ∈ db.operations, db.agrees operation) → agreed) := by
  rcases claimNextRuntimeControl_ok h with ⟨-, rfl⟩ | ⟨row, hnext, hclaimed⟩
  · exact ⟨_, .kept (fun _ hrow => hrow) (fun _ _ => rfl) (fun _ hevent => hevent) (le_refl _),
      fun _ _ => trivial⟩
  obtain ⟨-, -, -, hoperation, -⟩ := nextControlRow_ok hnext
  obtain ⟨agreed, hlog, hagreed⟩ := controlClaimed_log hlogged hoperation hclaimed
  refine ⟨agreed, hlog, fun hdenies hagrees => ?_⟩
  exact hagreed (hdenies row hnext) (hagrees row.operation (Table.find?_eq_some.mp hoperation).1)

end Control

section Complete
variable {operationId workerId : String}

theorem complete_log {outcome : PersistentOutcome} {controlRequestId : Option String}
    {completion : DecisionTaskCompletion} (hlogged : Logged env db)
    (h : complete env operationId workerId outcome controlRequestId now db =
      .ok (completion, db')) :
    ∃ agreed, LogChange env db db' agreed ∧
      ((∀ row ∈ db.operations.find? operationId,
        recordsOutcome outcome (db.currentLog row) = true) → agreed) := by
  rcases complete_ok h with ⟨-, rfl⟩ |
    ⟨-, row, decoded, db₁, hrow, hdecoded, -, hpersist, -, rfl⟩
  · exact ⟨_, .kept (fun _ hrow => hrow) (fun _ _ => rfl) (fun _ hevent => hevent) (le_refl _),
      fun _ => trivial⟩
  obtain ⟨hmem, hkey⟩ := Table.find?_eq_some.mp hrow
  rw [decodePersistentOutcome_payload hdecoded] at hpersist
  obtain ⟨-, rewrite, hrewrite, db₂, happends, rfl⟩ := persistOutcome_ok hpersist
  have hsettles := settles_rewrite now hdecoded hrewrite
  refine ⟨_, .changed (rewrite (completedRow row decoded now)) ?_ happends.events_eq ?_
    happends.drawn_le (.inr ⟨row, hmem, (hsettles.operationId row).symm,
      (hsettles.agentRunId row).symm, (hsettles.decisionTaskId row).symm⟩), ?_⟩
  · intro r hr
    simp only [happends.operations] at hr
    rw [hsettles.operationId row, hkey]
    rw [show (completedRow row decoded now).operationId = operationId from hkey,
      Table.update_update] at hr
    exact Table.mem_update_of_find? (f := fun row => rewrite (completedRow row decoded now))
      hrow hr
  · have hcontinues := outcomeEvents_continue env (completedRow row decoded now) outcome now db
    refine ⟨fun event hevent => ?_, fun event hevent => ?_, ?_⟩
    · exact (hcontinues.agentRunId event hevent).trans (hsettles.agentRunId row).symm
    · exact (hcontinues.decisionTaskId event hevent).trans (hsettles.decisionTaskId row).symm
    · rw [hsettles.agentRunId row, hsettles.decisionTaskId row]
      exact hcontinues.sequence
  · intro hrecords
    have hlast := persistOutcome_last hdecoded hpersist (hrecords row hrow)
    rw [hsettles.agentRunId row, hsettles.state row, ← hlogged.currentLog hmem,
      finalTaskState_of_decoded hdecoded]
    exact hlast

end Complete

section Requests

theorem requestRuntimeCancel_log {input : RuntimeCancelRequestInput}
    {status : Option RuntimeControlStatus} (hlogged : Logged env db)
    (h : requestRuntimeCancel env input now db = .ok (status, db')) :
    ∃ agreed, LogChange env db db' agreed ∧ agreed := by
  rcases requestRuntimeCancel_ok h with rfl |
    ⟨operation, controlRequests, controlStates, hlatest, -, -, -, happends⟩
  · exact ⟨_, .kept (fun _ hrow => hrow) (fun _ _ => rfl) (fun _ hevent => hevent) (le_refl _),
      trivial⟩
  have hmem := (latestOperation_mem hlatest).1
  refine ⟨_, .changed (cancelledOperation now operation) ?_ happends.events_eq
    (.single rfl rfl rfl) happends.drawn_le (.inr ⟨operation, hmem, rfl, rfl, rfl⟩),
    lastTaskState_concat _ _⟩
  intro r hr
  have hops : db'.operations = db.operations.update operation.operationId
    (cancelledOperation now) := happends.operations
  rw [hops] at hr
  exact Table.mem_update_of_find? (Table.find?_of_mem hmem) hr

/-- A purge deletes the events of its operations' current runs and no others. -/
theorem purge_log {ownerUserId : String} {result : PurgeResult} (hlogged : Logged env db)
    (h : purgePrivateDataForOwner env ownerUserId db = .ok (result, db')) :
    ∃ agreed, LogChange env db db' agreed ∧ agreed := by
  obtain rfl := purgePrivateDataForOwner_ok h
  have hrows : (db.erased env ownerUserId).runEvents = db.runEvents.deleteWhere fun row =>
    row.event.agentRunId ∈ (db.purgeScope ownerUserId).agentRunIds := rfl
  have hops : (db.erased env ownerUserId).operations = db.operations.deleteWhere fun row =>
    row.operationId ∈ (db.purgeScope ownerUserId).operationIds := rfl
  have hevents : (db.erased env ownerUserId).events = db.events.filter fun event =>
      event.agentRunId ∉ (db.purgeScope ownerUserId).agentRunIds := by
    rw [Store.events, Store.events, hrows, List.filter_map]
    refine congrArg _ (List.filter_congr fun row _ => ?_)
    simp
  refine ⟨_, .kept ?_ ?_ ?_ (le_refl _), trivial⟩
  · intro row hrow
    rw [hops] at hrow
    exact (Table.mem_deleteWhere.mp hrow).1
  · intro row hrow
    rw [hops] at hrow
    obtain ⟨hmem, houtside⟩ := Table.mem_deleteWhere.mp hrow
    have hrun : row.agentRunId ∉ (db.purgeScope ownerUserId).agentRunIds := by
      intro hin
      obtain ⟨other, hother, hsame⟩ := List.mem_map.mp hin
      obtain rfl := hlogged.known.unique other (Table.mem_select.mp hother).1 row hmem hsame
      simp only [decide_eq_false_iff_not] at houtside
      exact houtside (List.mem_map_of_mem hother)
    rw [logOf_eq, logOf_eq, hevents, List.filter_filter]
    apply List.filter_congr
    intro event _
    by_cases hsame : event.agentRunId = row.agentRunId
    · simp [hsame, hrun]
    · simp [hsame]
  · intro event hevent
    rw [hevents] at hevent
    exact (List.mem_filter.mp hevent).1

end Requests

/-- No completion and no denial of this step leaves the log behind the operation: after a
pause a completion brings a success whose state is new to the log, and a denial for manual
verification names the state that the operation is in. -/
def logsState (env : Environment) (db : Store) (label : Instant × Action) : Bool :=
  match label.2 with
  | .complete operationId _ outcome _ => (db.operations.find? operationId).all fun row =>
      recordsOutcome outcome (db.currentLog row)
  | .claimNextRuntimeControl _ _ skipped =>
    (db.nextControlRow env label.1 skipped).all fun row => db.deniesInState env row
  | _ => true

section Runs
variable {action : Action} {reply : Reply}

theorem step_log (hlogged : Logged env db)
    (h : step env db (now, action) = some (reply, db')) :
    ∃ agreed, LogChange env db db' agreed ∧
      (logsState env db (now, action) = true → (∀ row ∈ db.operations, db.agrees row) →
        agreed) := by
  have hkept : ∀ {s : Store}, s.operations = db.operations → s.runEvents = db.runEvents →
      db.uuidsDrawn ≤ s.uuidsDrawn → ∃ agreed, LogChange env db s agreed ∧
        (logsState env db (now, action) = true → (∀ row ∈ db.operations, db.agrees row) →
          agreed) := by
    intro s hops hrunEvents hdrawn
    have hevents : s.events = db.events := by
      rw [Store.events, hrunEvents]
      rfl
    refine ⟨_, .kept ?_ ?_ ?_ hdrawn, fun _ _ => trivial⟩
    · rw [hops]
      exact fun _ hrow => hrow
    · intro row _
      rw [logOf_eq, hevents, ← logOf_eq]
    · rw [hevents]
      exact fun _ hevent => hevent
  rcases step_cases h with hperform | ⟨-, rfl⟩
  swap
  · exact hkept rfl rfl (le_refl _)
  cases action with
  | submit command ownerUserId =>
    simp only [perform, bind_eq_ok] at hperform
    obtain ⟨⟨snapshot, _⟩, hsubmit, hperform⟩ := hperform
    cases hperform
    obtain ⟨agreed, hlog, hagreed⟩ := submit_log hlogged hsubmit
    exact ⟨agreed, hlog, fun _ _ => hagreed⟩
  | claimNext operationId workerId leaseDurationMs =>
    simp only [perform, bind_eq_ok] at hperform
    obtain ⟨⟨result, _⟩, hclaim, hperform⟩ := hperform
    cases hperform
    obtain ⟨agreed, hlog, hagreed⟩ := claimNext_log hlogged hclaim
    exact ⟨agreed, hlog, fun _ _ => hagreed⟩
  | claimNextRuntimeControl workerId leaseDurationMs skipped =>
    simp only [perform, bind_eq_ok] at hperform
    obtain ⟨⟨result, _⟩, hclaim, hperform⟩ := hperform
    cases hperform
    obtain ⟨agreed, hlog, hagreed⟩ := claimNextRuntimeControl_log hlogged hclaim
    refine ⟨agreed, hlog, fun hguard => hagreed fun row hrow => ?_⟩
    exact Option.all_eq_true _ _ |>.mp hguard row hrow
  | complete operationId workerId outcome controlRequestId =>
    simp only [perform, bind_eq_ok] at hperform
    obtain ⟨⟨completion, _⟩, hcomplete, hperform⟩ := hperform
    cases hperform
    obtain ⟨agreed, hlog, hagreed⟩ := complete_log hlogged hcomplete
    refine ⟨agreed, hlog, fun hguard _ => hagreed fun row hrow => ?_⟩
    exact Option.all_eq_true _ _ |>.mp hguard row hrow
  | requestRuntimeCancel input =>
    simp only [perform, bind_eq_ok] at hperform
    obtain ⟨⟨status, _⟩, hrequest, hperform⟩ := hperform
    cases hperform
    obtain ⟨agreed, hlog, hagreed⟩ := requestRuntimeCancel_log hlogged hrequest
    exact ⟨agreed, hlog, fun _ _ => hagreed⟩
  | purgePrivateDataForOwner ownerUserId =>
    simp only [perform, bind_eq_ok] at hperform
    obtain ⟨⟨result, _⟩, hpurge, hperform⟩ := hperform
    cases hperform
    obtain ⟨agreed, hlog, hagreed⟩ := purge_log hlogged hpurge
    exact ⟨agreed, hlog, fun _ _ => hagreed⟩
  | requestRuntimeResume input =>
    simp only [perform, bind_eq_ok] at hperform
    obtain ⟨⟨status, _⟩, hrequest, hperform⟩ := hperform
    cases hperform
    rcases requestRuntimeResume_ok hrequest with rfl | ⟨_, -, -, hinsert⟩
    · exact hkept rfl rfl (le_refl _)
    · obtain ⟨-, _, -, rfl⟩ := insertControlRequest_ok hinsert
      exact hkept rfl rfl (le_refl _)
  | _ =>
    cases perform_change hperform with
    | frame hsame hreply => exact hkept hsame.operations hsame.runEvents hsame.drawn_le

/-- The log invariant with the agreement of every operation. -/
structure StatesLogged (env : Environment) (db : Store) : Prop where
  logged : Logged env db
  agrees : ∀ row ∈ db.operations, db.agrees row

theorem statesLogged_empty : StatesLogged env Store.empty where
  logged := logged_empty
  agrees := by
    intro row hrow
    cases hrow

theorem StatesLogged.step (hs : StatesLogged env db)
    (hguard : logsState env db (now, action) = true)
    (h : step env db (now, action) = some (reply, db')) : StatesLogged env db' := by
  obtain ⟨agreed, hlog, hagreed⟩ := step_log hs.logged h
  exact ⟨hs.logged.change (hs.logged.known.change (step_change h)) hlog,
    hs.logged.agrees_change hlog (hagreed hguard hs.agrees) hs.agrees⟩

/-- In a run whose completions and denials record the state they lead to, every operation
agrees with the log of its current run. -/
theorem operation_state_logged {es : List (Entry Store (Instant × Action) Reply)}
    (h : Run (step env) Store.empty es db)
    (hguard : Guarded (fun db label => logsState env db label = true) es) :
    ∀ row ∈ db.operations, db.agrees row := by
  have hlogged : StatesLogged env db := by
    refine h.invariant ?_ hguard statesLogged_empty
    intro s t a r hs hG hstep
    exact hs.step hG hstep
  exact hlogged.agrees

end Runs

section Sample

instance (db : Store) (operation : Operation) : Decidable (db.agrees operation) :=
  inferInstanceAs (Decidable (_ = _))

/-- The resumed run ends with a failed result. -/
def failedResumeSchedule : List (Instant × Action) :=
  resumedSchedule ++
    [(6, .complete sampleOperation "worker-1" (.result (sampleFailed sampleRun))
      (some "control"))]

/-- The resumed run fails in a way that allows a retry, and is retried. -/
def retriedResumeSchedule : List (Instant × Action) :=
  resumedSchedule ++
    [(6, .complete sampleOperation "worker-1"
      (.failure ⟨.failedRetryable, "busy", none⟩) (some "control")),
     (7, .claimNext sampleOperation "worker-2" 10)]

set_option maxRecDepth 4000 in
/-- The operation is `FAILED_FINAL` while its log ends with `UNDERSTANDING`. -/
theorem failed_resume_not_logged :
    ∃ es db, Run (step sampleEnv) Store.empty es db ∧ clockAdvances es = true ∧
      ∃ row ∈ db.operations, ¬ db.agrees row := by
  have hexec : (exec (step sampleEnv) Store.empty failedResumeSchedule).any (fun result =>
      clockAdvances result.1 &&
        result.2.operations.rows.any fun row => !decide (result.2.agrees row)) = true := by
    decide +kernel
  obtain ⟨es, db, hrun, hcheck⟩ := exists_run_of_exec hexec
  rw [Bool.and_eq_true, List.any_eq_true] at hcheck
  obtain ⟨hclock, row, hrow, hnot⟩ := hcheck
  exact ⟨es, db, hrun, hclock, row, hrow, by simpa using hnot⟩

set_option maxRecDepth 4000 in
theorem operation_state_logged_retried :
    ∃ es db, Run (step sampleEnv) Store.empty es db ∧ es.length = 9 ∧
      (∃ row ∈ db.operations, row.state = .running ∧ row.agentRunId ≠ sampleRun) ∧
      ∀ row ∈ db.operations, db.agrees row := by
  have hexec : (exec (step sampleEnv) Store.empty retriedResumeSchedule).any (fun result =>
      (result.1.all fun e => logsState sampleEnv e.before e.label) &&
        (decide (result.1.length = 9) && result.2.operations.rows.any fun row =>
          decide (row.state = .running ∧ row.agentRunId ≠ sampleRun))) = true := by
    decide +kernel
  obtain ⟨es, db, hrun, hcheck⟩ := exists_run_of_exec hexec
  rw [Bool.and_eq_true, Bool.and_eq_true, List.all_eq_true, List.any_eq_true,
    decide_eq_true_eq] at hcheck
  obtain ⟨hguard, hlength, row, hrow, hstate⟩ := hcheck
  exact ⟨es, db, hrun, hlength, ⟨row, hrow, by simpa using hstate⟩,
    operation_state_logged hrun hguard⟩

end Sample

end ChoiceMind.TaskPersistence
