import ChoiceMind.TaskPersistence.Requests

/-!
# Terminal states

A finished operation is left alone by every step but a purge of its owner, and a cancelled
run never starts again. The control row of a run leaves a terminal state only by a
cancellation of the task, which overwrites it unseen.
-/

namespace ChoiceMind.TaskPersistence

set_option autoImplicit false

open Contracts Transition

variable {env : Environment} {db db' : Store} {now : Instant} {action : Action} {reply : Reply}

section Operations
variable {row : Operation} {agentRunId operationId : String}

/-- A finished operation keeps its row, its runs and their logs. -/
structure FinalKept (row : Operation) (db db' : Store) : Prop where
  operation : row ∈ db'.operations
  runs : ∀ agentRunId, db'.runOperation agentRunId = some row.operationId ↔
    db.runOperation agentRunId = some row.operationId
  logs : ∀ agentRunId, db.runOperation agentRunId = some row.operationId →
    db'.logOf agentRunId = db.logOf agentRunId

theorem FinalKept.refl (hrow : row ∈ db.operations) : FinalKept row db db :=
  ⟨hrow, fun _ => Iff.rfl, fun _ _ => rfl⟩

theorem FinalKept.trans {db₁ : Store} (h : FinalKept row db db₁) (h' : FinalKept row db₁ db') :
    FinalKept row db db' where
  operation := h'.operation
  runs agentRunId := (h'.runs agentRunId).trans (h.runs agentRunId)
  logs agentRunId hrun := by
    rw [h'.logs agentRunId ((h.runs agentRunId).mpr hrun)]
    exact h.logs agentRunId hrun

theorem logOf_of_logsOnly {events : List RunEvent} (h : LogsOnly agentRunId events db db')
    {other : String} (hother : other ≠ agentRunId) : db'.logOf other = db.logOf other := by
  rw [logOf_append h.1 h.2, if_neg hother]

/-- Without a new run it is enough that the log that grows is another operation's. -/
theorem FinalKept.of_keeps (h : KeepsRuns agentRunId db db') (hrow : row ∈ db'.operations)
    (hquiet : db'.events = db.events ∨ db.runOperation agentRunId ≠ some row.operationId) :
    FinalKept row db db' where
  operation := hrow
  runs other := by rw [h.runOperation]
  logs other hrun := by
    rcases hquiet with hsame | hother
    · rw [logOf_eq, logOf_eq, hsame]
    · obtain ⟨events, hlogs⟩ := h.events
      refine logOf_of_logsOnly hlogs ?_
      rintro rfl
      exact hother hrun

/-- A run that is opened for another operation has a log of its own. -/
theorem FinalKept.of_opens (h : OpensRun agentRunId operationId db db')
    (hrow : row ∈ db'.operations) (hother : operationId ≠ row.operationId) :
    FinalKept row db db' := by
  obtain ⟨attempt, createdAt, hinsert⟩ := h.agentRuns
  have hnew : db.runOperation agentRunId = none := by
    rw [Store.runOperation, Table.find?_eq_none.mpr (Table.key_fresh_of_insert? hinsert)]
    rfl
  refine ⟨hrow, fun other => ?_, fun other hrun => ?_⟩
  · by_cases hsame : other = agentRunId
    · rw [hsame, h.runOperation_self, hnew]
      simp [hother]
    · rw [Store.runOperation, Store.runOperation, Table.find?_insert? hinsert, if_neg hsame]
  · obtain ⟨events, -, hlogs⟩ := h.events
    refine logOf_of_logsOnly hlogs ?_
    rintro rfl
    rw [hnew] at hrun
    cases hrun

theorem Operation.open_of_claimable (h : row.claimable now = true) :
    row.state.isFinal = false := by
  simp only [Operation.claimable, Operation.leaseExpired, Bool.or_eq_true, Bool.and_eq_true,
    decide_eq_true_eq] at h
  rcases h with (hstate | hstate) | ⟨hstate, -⟩ <;> rw [hstate] <;> rfl

theorem OperationState.open_of_isPaused {state : OperationState} (h : state.isPaused = true) :
    state.isFinal = false := by
  cases state with
  | paused reason => rfl
  | _ => cases h

theorem RuntimeControlClaimRow.open_of_consistent {claimRow : RuntimeControlClaimRow}
    (h : claimRow.consistent = true) : claimRow.operation.state.isFinal = false := by
  rcases consistent_state h with ⟨-, hrunning⟩ | ⟨-, hpaused⟩
  · rw [hrunning]
    rfl
  · exact OperationState.open_of_isPaused hpaused

theorem Operation.open_of_completable {workerId : String} {decoded : DecodedOutcome}
    (h : row.completableBy workerId decoded now = true) : row.state.isFinal = false := by
  simp only [Operation.completableBy, Bool.and_eq_true, decide_eq_true_eq] at h
  rw [h.1.1.1.2]
  rfl

/-- A purge of another owner deletes nothing of a finished operation. -/
theorem FinalKept.of_purge (hregistered : Registered db) (hrow : row ∈ db.operations)
    {ownerUserId : String} (hother : db.ownerOf row ≠ some ownerUserId)
    (hops : db'.operations = db.operations.deleteWhere fun row =>
      row.operationId ∈ (db.purgeScope ownerUserId).operationIds)
    (hruns : db'.agentRuns = db.agentRuns.deleteWhere fun run =>
      run.operationId ∈ (db.purgeScope ownerUserId).operationIds)
    (hevents : db'.runEvents = db.runEvents.deleteWhere fun event =>
      event.event.agentRunId ∈ (db.purgeScope ownerUserId).agentRunIds) :
    FinalKept row db db' := by
  have hscope : row.operationId ∉ (db.purgeScope ownerUserId).operationIds := by
    rw [mem_scope_operationIds, operationOwner_of_mem hrow]
    exact hother
  refine ⟨?_, fun agentRunId => ?_, fun agentRunId hrun => ?_⟩
  · rw [hops, Table.mem_deleteWhere]
    exact ⟨hrow, decide_eq_false hscope⟩
  · rw [Store.runOperation, Store.runOperation, hruns, Table.find?_deleteWhere]
    cases hfound : db.agentRuns.find? agentRunId with
    | none => rfl
    | some run =>
      by_cases hsame : run.operationId = row.operationId
      · simp [Option.filter, hsame, hscope]
      · by_cases hin : run.operationId ∈ (db.purgeScope ownerUserId).operationIds <;>
          simp [Option.filter, hin, hsame]
  · have houtside : agentRunId ∉ (db.purgeScope ownerUserId).agentRunIds := by
      intro hin
      have howner := hregistered.runOwner_of_mem_scope hin
      rw [runOwner_eq, hrun, Option.bind_some, operationOwner_of_mem hrow] at howner
      exact hother howner
    unfold Store.logOf
    rw [hevents, Table.deleteWhere, List.filter_map, List.filter_map, List.filter_filter]
    refine congrArg _ (List.filter_congr fun event _ => ?_)
    by_cases hsame : event.event.agentRunId = agentRunId
    · simp [hsame, houtside]
    · simp [hsame]

/-- A step that is not a purge of its owner leaves a finished operation alone. -/
theorem Change.final_kept (hregistered : Registered db) (h : Change env db now action reply db')
    (hrow : row ∈ db.operations) (hfinal : row.state.isFinal = true)
    (hunpurged : ∀ ownerUserId, db.ownerOf row = some ownerUserId →
      commitsPurge ownerUserId (now, action) reply = false) : FinalKept row db db' := by
  -- the operation that a step changes is not finished
  have hapart : ∀ {other : Operation}, other ∈ db.operations → other.state.isFinal = false →
      other.operationId ≠ row.operationId := by
    intro other hother hopen hsame
    rw [Table.eq_of_key_eq hother hrow hsame, hfinal] at hopen
    cases hopen
  have hrun : ∀ {other : Operation}, other ∈ db.operations → other.state.isFinal = false →
      db.runOperation other.agentRunId ≠ some row.operationId := by
    intro other hother hopen hof
    rw [hregistered.operations other hother] at hof
    exact hapart hother hopen (Option.some.inj hof)
  have hupdate : ∀ {other : Operation} {id : String} {f : Operation → Operation}
      {hf : ∀ row, (f row).operationId = row.operationId},
      db.operations.find? id = some other → other.state.isFinal = false →
      row ∈ db.operations.update id f hf := by
    intro other id f hf hfound hopen
    obtain ⟨hmem, rfl⟩ := Table.find?_eq_some.mp hfound
    exact (Table.mem_update_of_ne (hapart hmem hopen).symm).mpr hrow
  cases h with
  | frame hsame hreply =>
    refine .of_keeps (hsame.keepsRuns "")
      (hsame.operations ▸ hrow) (.inl ?_)
    rw [Store.events, hsame.runEvents]
    rfl
  | submitted hops hreqs hdrawn hruns =>
    exact .of_opens hruns ((Table.mem_insert? hops).mpr (.inl hrow))
      fun hsame => Table.key_fresh_of_insert? hops row hrow hsame.symm
  | claimed hfound hclaimable hops hreqs hclaimed =>
    have hopen := Operation.open_of_claimable hclaimable
    have hmem := (Table.find?_eq_some.mp hfound).1
    have hstays := hops ▸ hupdate hfound hopen
    cases hclaimed with
    | current hstate hsame hdrawn hruns =>
      exact .of_keeps hruns hstays (.inr (hsame ▸ hrun hmem hopen))
    | retried hstate hnew hdrawn hruns => exact .of_opens hruns hstays (hapart hmem hopen)
  | controlRejected hrequest hclaimable hops hreqs hdrawn hruns hquiet =>
    refine .of_keeps hruns (hops ▸ hrow) ?_
    rcases hquiet with hsame | ⟨claimRow, rfl, hfound, hconsistent⟩
    · exact .inl hsame
    · obtain ⟨hmem, hkey⟩ := Table.find?_eq_some.mp hfound
      refine .inr fun hof => ?_
      rw [hregistered.requests _ hrequest, ← hkey] at hof
      exact hapart hmem (RuntimeControlClaimRow.open_of_consistent hconsistent)
        (Option.some.inj hof)
  | controlClaimed hrequest hclaimable hfound hconsistent hops hreqs hclaim hof hdrawn hruns =>
    have hopen := RuntimeControlClaimRow.open_of_consistent hconsistent
    obtain ⟨hmem, hkey⟩ := Table.find?_eq_some.mp hfound
    refine .of_keeps hruns (hops ▸ hupdate hfound hopen) (.inr fun hof => ?_)
    rw [hregistered.requests _ hrequest, ← hkey] at hof
    exact hapart hmem hopen (Option.some.inj hof)
  | completed hfound hdecoded hcompletable hsettle hcommitted hops hreqs hdrawn hruns =>
    have hopen := Operation.open_of_completable hcompletable
    exact .of_keeps hruns (hops ▸ hupdate hfound hopen)
      (.inr (hrun (Table.find?_eq_some.mp hfound).1 hopen))
  | resumeRequested hoperation hpaused hops hreqs hdrawn hruns =>
    exact .of_keeps hruns (hops ▸ hrow)
      (.inr (hrun hoperation (OperationState.open_of_isPaused hpaused)))
  | cancelled hoperation hops hreqs hdrawn hruns hopen =>
    exact .of_keeps hruns (hops ▸ hupdate (Table.find?_of_mem hoperation) hopen)
      (.inr (hrun hoperation hopen))
  | @purged ownerUserId result _ hops hreqs hruns hevents hdrawn =>
    refine .of_purge hregistered hrow (fun howner => ?_) hops hruns hevents
    have hpurge := hunpurged ownerUserId howner
    rw [commitsPurge_purged] at hpurge
    cases hpurge

end Operations

section Cancelled
variable {agentRunId : String}

/-- The step commits or repeats a cancellation of the run. -/
def cancelsRun (agentRunId : String) (label : Instant × Action) (reply : Reply) : Bool :=
  match label.2, reply with
  | .requestRuntimeCancel _, .controlStatus (some status) => status.agentRunId = agentRunId
  | _, _ => false

/-- The step sets the run going again, or finishes it in another state than cancelled. -/
def restartsRun (agentRunId : String) (label : Instant × Action) (reply : Reply) : Bool :=
  match label.2, reply with
  | .recordRuntimeRunning run _ _, .done => run = agentRunId
  | .claimRuntimeResume run _ _ _, .runtimeControl claim =>
    run = agentRunId && claim.status = .acquired
  | .completeRuntimeControl run _ _ _ state _, .done => run = agentRunId && state ≠ .cancelled
  | _, _ => false

theorem toRuntimeControlStatus_agentRunId {request : ControlRequest} {status : RuntimeControlStatus}
    (h : toRuntimeControlStatus request = .ok status) : status.agentRunId = request.agentRunId := by
  unfold toRuntimeControlStatus at h
  simp only at h
  split_ifs at h
  all_goals cases h
  all_goals rfl

theorem isResume_of_repeats {existing : ControlRequest} {input : RuntimeCancelRequestInput}
    {operation : Operation} (h : existing.repeats (cancelRequest input operation now) = true) :
    existing.action.isResume = false := by
  simp only [ControlRequest.repeats, Bool.and_eq_true, decide_eq_true_eq] at h
  rw [h.1.1.2]
  rfl

theorem requestRuntimeCancel_cancelled {input : RuntimeCancelRequestInput}
    {status : RuntimeControlStatus} (hholds : CancelsHold db)
    (h : requestRuntimeCancel env input now db = .ok (some status, db')) :
    isRuntimeCancelled status.agentRunId db' = true := by
  unfold requestRuntimeCancel at h
  split at h
  · cases h
  simp only at h
  split at h
  · -- a repeated request: the stored one has its run cancelled
    rename_i existing hexisting
    split at h
    · rename_i hrepeats
      simp only [bind_eq_ok] at h
      obtain ⟨_, hstatus, h⟩ := h
      cases h
      rw [toRuntimeControlStatus_agentRunId hstatus]
      exact hholds existing (Table.find?_eq_some.mp hexisting).1 (isResume_of_repeats hrepeats)
    · cases h
  · split at h
    · cases h
    simp only [bind_eq_ok] at h
    obtain ⟨_, -, db₁, -, db₂, hcontrol, db₃, hevent, _, hstatus, h⟩ := h
    cases h
    obtain ⟨controlStates, rfl, hcancels⟩ := cancelControlState_ok hcontrol
    rw [toRuntimeControlStatus_agentRunId hstatus, isRuntimeCancelled_iff,
      (insertTaskEvent_appends hevent).controlStates]
    exact hcancels.cancelled

theorem recordRuntimeRunning_cancelled {controllerId : String} {leaseDurationMs : Nat}
    (hcancelled : isRuntimeCancelled agentRunId db = true) :
    recordRuntimeRunning agentRunId controllerId leaseDurationMs now db = unavailable := by
  obtain ⟨row, hrow, hstate⟩ := isRuntimeCancelled_iff.mp hcancelled
  simp [recordRuntimeRunning, hrow, ControlState.admitsRunning, hstate]

theorem claimRuntimeResume_cancelled {snapshotId controllerId : String} {leaseDurationMs : Nat}
    (hcancelled : isRuntimeCancelled agentRunId db = true) :
    ∃ row : ControlState, claimRuntimeResume agentRunId snapshotId controllerId leaseDurationMs now db =
      .ok (⟨.denied, row.state, row.events⟩, db) := by
  obtain ⟨row, hrow, hstate⟩ := isRuntimeCancelled_iff.mp hcancelled
  refine ⟨row, ?_⟩
  simp [claimRuntimeResume, hrow, hstate, RuntimeControlState.isPaused]

theorem completeRuntimeControl_cancelled {controllerId : String}
    {expectedSnapshotId nextSnapshotId : Option String} {state : RuntimeControlState}
    {runEvents : List RunEvent} (hcancelled : isRuntimeCancelled agentRunId db = true)
    (hstate : state ≠ .cancelled) :
    completeRuntimeControl agentRunId controllerId expectedSnapshotId nextSnapshotId state
      runEvents now db = unavailable := by
  obtain ⟨row, hrow, hcurrent⟩ := isRuntimeCancelled_iff.mp hcancelled
  simp [completeRuntimeControl, hrow, ControlState.completableBy, hcurrent, hstate.symm]

theorem cancelsRun_cancelled (hholds : CancelsHold db)
    (hcancels : cancelsRun agentRunId (now, action) reply = true)
    (h : step env db (now, action) = some (reply, db')) :
    isRuntimeCancelled agentRunId db' = true := by
  unfold cancelsRun at hcancels
  split at hcancels
  · rename_i input status haction
    cases haction
    obtain rfl : status.agentRunId = agentRunId := of_decide_eq_true hcancels
    rcases step_cases h with hperform | ⟨⟨error, herror⟩, -⟩
    · simp only [perform, bind_eq_ok] at hperform
      obtain ⟨⟨_, _⟩, hrequest, hperform⟩ := hperform
      cases hperform
      exact requestRuntimeCancel_cancelled hholds hrequest
    · cases herror
  · cases hcancels

/-- A cancelled run does not start again. -/
theorem restartsRun_cancelled (hcancelled : isRuntimeCancelled agentRunId db = true)
    (h : step env db (now, action) = some (reply, db')) :
    restartsRun agentRunId (now, action) reply = false := by
  rcases step_cases h with hperform | ⟨⟨error, rfl⟩, -⟩
  swap
  · cases action <;> rfl
  cases action with
  | recordRuntimeRunning run controllerId leaseDurationMs =>
    simp only [perform, bind_eq_ok] at hperform
    obtain ⟨_, hrecord, hperform⟩ := hperform
    cases hperform
    refine decide_eq_false ?_
    rintro rfl
    rw [recordRuntimeRunning_cancelled hcancelled] at hrecord
    cases hrecord
  | claimRuntimeResume run snapshotId controllerId leaseDurationMs =>
    simp only [perform, bind_eq_ok] at hperform
    obtain ⟨⟨claim, _⟩, hclaim, hperform⟩ := hperform
    cases hperform
    change (decide (run = agentRunId) && decide (claim.status = .acquired)) = false
    rw [Bool.and_eq_false_imp]
    intro hsame
    obtain rfl : run = agentRunId := of_decide_eq_true hsame
    obtain ⟨row, hdenied⟩ := claimRuntimeResume_cancelled hcancelled
    rw [hdenied] at hclaim
    cases hclaim
    rfl
  | completeRuntimeControl run controllerId expected next state runEvents =>
    simp only [perform, bind_eq_ok] at hperform
    obtain ⟨_, hcomplete, hperform⟩ := hperform
    cases hperform
    change (decide (run = agentRunId) && decide (state ≠ .cancelled)) = false
    rw [Bool.and_eq_false_imp]
    intro hsame
    obtain rfl : run = agentRunId := of_decide_eq_true hsame
    refine decide_eq_false fun hstate => ?_
    rw [completeRuntimeControl_cancelled hcancelled hstate] at hcomplete
    cases hcomplete
  | _ => rfl

end Cancelled

section Runs
variable {pre post : List (Entry Store (Instant × Action) Reply)}
  {e : Entry Store (Instant × Action) Reply}

/-- What holds after every further step, from a reachable store on. -/
theorem final_kept_along (hregistered : Registered db) (h : Run (step env) db post db')
    {row : Operation} (hrow : row ∈ db.operations) (hfinal : row.state.isFinal = true)
    (hunpurged : ∀ f ∈ post, ∀ ownerUserId, f.before.ownerOf row = some ownerUserId →
      commitsPurge ownerUserId f.label f.reply = false) :
    ∀ f ∈ post, FinalKept row db f.after := by
  induction h with
  | nil =>
    intro f hf
    cases hf
  | @cons s t u a r fs hstep hrest ih =>
    have hchange := step_change hstep
    have hkept : FinalKept row s t :=
      hchange.final_kept hregistered hrow hfinal (hunpurged _ List.mem_cons_self)
    intro f hf
    rcases List.mem_cons.mp hf with rfl | hlater
    · exact hkept
    · exact hkept.trans (ih (hregistered.change hchange) hkept.operation
        (fun g hg => hunpurged g (List.mem_cons_of_mem _ hg)) f hlater)

theorem cancelled_along {agentRunId : String} (hregistered : Registered db)
    (h : Run (step env) db post db') (hcancelled : isRuntimeCancelled agentRunId db = true)
    (hunpurged : ∀ f ∈ post, ∀ ownerUserId, f.before.runOwner agentRunId = some ownerUserId →
      commitsPurge ownerUserId f.label f.reply = false) :
    ∀ f ∈ post, isRuntimeCancelled agentRunId f.after = true ∧
      restartsRun agentRunId f.label f.reply = false := by
  induction h with
  | nil =>
    intro f hf
    cases hf
  | @cons s t u a r fs hstep hrest ih =>
    have hstays : isRuntimeCancelled agentRunId t = true := by
      refine step_cancelled hstep hcancelled fun ownerUserId hpurge hin => ?_
      have howner := hregistered.runOwner_of_mem_scope hin
      rw [hunpurged _ List.mem_cons_self ownerUserId howner] at hpurge
      cases hpurge
    intro f hf
    rcases List.mem_cons.mp hf with rfl | hlater
    · exact ⟨hstays, restartsRun_cancelled hcancelled hstep⟩
    · exact ih (hregistered.change (step_change hstep)) hstays
        (fun g hg => hunpurged g (List.mem_cons_of_mem _ hg)) f hlater

/-- After any step, a finished operation stays as it is until its owner is purged; and after
a cancellation of a run, the run stays cancelled until its owner is purged. -/
theorem terminal_operations_absorbing (h : Run (step env) Store.empty (pre ++ e :: post) db) :
    (∀ row ∈ e.after.operations, row.state.isFinal = true →
      (∀ f ∈ post, ∀ ownerUserId, f.before.ownerOf row = some ownerUserId →
        commitsPurge ownerUserId f.label f.reply = false) →
      ∀ f ∈ post, FinalKept row e.after f.after) ∧
    ∀ agentRunId, cancelsRun agentRunId e.label e.reply = true →
      (∀ f ∈ post, ∀ ownerUserId, f.before.runOwner agentRunId = some ownerUserId →
        commitsPurge ownerUserId f.label f.reply = false) →
      isRuntimeCancelled agentRunId e.after = true ∧
        ∀ f ∈ post, isRuntimeCancelled agentRunId f.after = true ∧
          restartsRun agentRunId f.label f.reply = false := by
  obtain ⟨before, hpre, hrest⟩ := h.split
  cases hrest with
  | @cons _ after _ label reply _ hstep hpost =>
    have hregistered : Registered after := (registered_of_run hpre).change (step_change hstep)
    refine ⟨fun row hrow hfinal hunpurged => ?_, fun agentRunId hcancels hunpurged => ?_⟩
    · exact final_kept_along hregistered hpost hrow hfinal hunpurged
    · have hcancelled : isRuntimeCancelled agentRunId after = true :=
        cancelsRun_cancelled (cancelsHold_of_run hpre) hcancels hstep
      exact ⟨hcancelled, cancelled_along hregistered hpost hcancelled hunpurged⟩

/-- A cancellation while a worker holds the operation, with the worker's late calls. -/
def cancelledWhileRunning : List (Instant × Action) :=
  [(0, .submit (sampleCommand "request") "owner"),
   (1, .claimNext sampleOperation "worker-1" 10),
   (2, .recordRuntimeRunning sampleRun "worker-1" 10),
   (3, .requestRuntimeCancel ⟨"control", "task", "owner", "cancellation", "correlation"⟩),
   (4, .completeRuntimeControl sampleRun "worker-1" none none .completed []),
   (5, .complete sampleOperation "worker-1" (.result (sampleFailed sampleRun)) none),
   (6, .recordRuntimeRunning sampleRun "worker-2" 10),
   (7, .claimNext sampleOperation "worker-2" 10)]

set_option maxRecDepth 4000 in
theorem terminal_operations_absorbing_late :
    ∃ pre e post db, Run (step sampleEnv) Store.empty (pre ++ e :: post) db ∧
      post.length = 4 ∧
      (∃ row ∈ e.after.operations, row.state = .cancelled ∧
        ∀ f ∈ post, FinalKept row e.after f.after) ∧
      ∀ f ∈ post, isRuntimeCancelled sampleRun f.after = true ∧
        restartsRun sampleRun f.label f.reply = false := by
  have hexec : (exec (step sampleEnv) Store.empty cancelledWhileRunning).any
      (cutAt 3 fun _ e post => decide (post.length = 4) &&
        ((e.after.operations.rows.any fun row => decide (row.state = .cancelled)) &&
          (cancelsRun sampleRun e.label e.reply &&
            post.all fun f => !f.reply.isPurged))) = true := by
    decide +kernel
  obtain ⟨pre, e, post, db, hrun, hcheck⟩ := exists_cut_of_exec hexec
  simp only [Bool.and_eq_true, decide_eq_true_eq, List.any_eq_true, List.all_eq_true,
    Bool.not_eq_true'] at hcheck
  obtain ⟨hlength, ⟨row, hrow, hstate⟩, hcancels, hunpurged⟩ := hcheck
  have hfinal : row.state.isFinal = true := by
    rw [hstate]
    rfl
  obtain ⟨hkept, hcancelled⟩ := terminal_operations_absorbing hrun
  refine ⟨pre, e, post, db, hrun, hlength, ⟨row, hrow, hstate, ?_⟩, ?_⟩
  · exact hkept row hrow hfinal fun f hf owner _ => commitsPurge_of_not_purged (hunpurged f hf) owner
  · exact (hcancelled sampleRun hcancels fun f hf owner _ =>
      commitsPurge_of_not_purged (hunpurged f hf) owner).2

end Runs

section ControlRows
variable {es : List (Entry Store (Instant × Action) Reply)}

/-- A new cancellation whose operation is unfinished although its run's control row is
terminal, which `requestRuntimeCancel` does not look at. -/
def overwritesTerminal (db : Store) (label : Instant × Action) : Bool :=
  match label.2 with
  | .requestRuntimeCancel input =>
    (db.controlRequests.find? input.controlRequestId).isNone &&
      (db.latestOperation input.decisionTaskId input.ownerUserId).any fun operation =>
        !operation.state.isFinal &&
          (db.controlStates.find? operation.agentRunId).any fun row => row.state.isTerminal
  | _ => false

/-- The step is a purge that deletes the control row of the run. -/
def purgesRun (agentRunId : String) (e : Entry Store (Instant × Action) Reply) : Prop :=
  ∃ ownerUserId, commitsPurge ownerUserId e.label e.reply = true ∧
    agentRunId ∈ (e.before.purgeScope ownerUserId).agentRunIds ∧
    e.after.controlStates.find? agentRunId = none

theorem terminal_row_step {row : ControlState}
    (h : step env db (now, action) = some (reply, db'))
    (hguard : overwritesTerminal db (now, action) = false) (hrow : row ∈ db.controlStates)
    (hterminal : row.state.isTerminal = true) :
    row ∈ db'.controlStates ∨ purgesRun row.agentRunId ⟨db, (now, action), reply, db'⟩ := by
  have hfound := Table.find?_of_mem hrow
  rcases step_terminal_row h hfound hterminal with
    hsame | ⟨input, operation, rfl, hlatest, hopen, hnew, hrun, -⟩ | hpurged
  · exact .inl (Table.find?_eq_some.mp hsame).1
  · simp only [overwritesTerminal, hnew, hlatest, hrun, hfound, hterminal, hopen,
      Option.isNone_none, Option.any_some, Bool.not_false, Bool.and_true] at hguard
    cases hguard
  · exact .inr hpurged

/-- Without a cancellation that overwrites it, a terminal control row stays as it is until a
purge deletes it. -/
theorem terminal_control_absorbing (h : Run (step env) db es db')
    (hguard : Guarded (fun s label => overwritesTerminal s label = false) es)
    {row : ControlState} (hrow : row ∈ db.controlStates)
    (hterminal : row.state.isTerminal = true) :
    row ∈ db'.controlStates ∨ ∃ e ∈ es, purgesRun row.agentRunId e := by
  induction h with
  | nil => exact .inl hrow
  | cons hstep hrest ih =>
    rw [Guarded.cons_iff] at hguard
    rcases terminal_row_step hstep hguard.1 hrow hterminal with hstays | hpurged
    · rcases ih hguard.2 hstays with hlast | ⟨e, he, hpurged⟩
      · exact .inl hlast
      · exact .inr ⟨e, List.mem_cons_of_mem _ he, hpurged⟩
    · exact .inr ⟨_, List.mem_cons_self, hpurged⟩

/-- The Runtime finishes, and the task is cancelled before the worker commits. -/
def cancelledAfterFinish : List (Instant × Action) :=
  [(0, .submit (sampleCommand "request") "owner"),
   (1, .claimNext sampleOperation "worker-1" 10),
   (2, .recordRuntimeRunning sampleRun "worker-1" 10),
   (3, .completeRuntimeControl sampleRun "worker-1" none none .completed []),
   (4, .requestRuntimeCancel ⟨"control", "task", "owner", "cancellation", "correlation"⟩)]

/-- The same window, in which only the recovery store is called. -/
def refusedAfterFinish : List (Instant × Action) :=
  [(0, .submit (sampleCommand "request") "owner"),
   (1, .claimNext sampleOperation "worker-1" 10),
   (2, .recordRuntimeRunning sampleRun "worker-1" 10),
   (3, .completeRuntimeControl sampleRun "worker-1" none none .completed []),
   (4, .claimRuntimeCancel sampleRun "cancellation" []),
   (5, .recordRuntimeRunning sampleRun "worker-2" 10),
   (6, .complete sampleOperation "worker-1" (.result (sampleFailed sampleRun)) none)]

/-- The recovery store denies the cancellation of the finished run. -/
def deniesCancel (agentRunId : String) (now : Instant) (db : Store) : Bool :=
  match claimRuntimeCancel agentRunId "cancellation" [] now db with
  | .ok (claim, _) => claim.status = .denied
  | .error _ => false

set_option maxRecDepth 4000 in
/-- A `COMPLETED` control row becomes `CANCELLED`, although `claimRuntimeCancel` denies it. -/
theorem completed_control_overwritten :
    ∃ es db, Run (step sampleEnv) Store.empty es db ∧ clockAdvances es = true ∧
      ∃ e ∈ es, (∃ row ∈ e.before.controlStates, row.agentRunId = sampleRun ∧
          row.state = .completed) ∧ deniesCancel sampleRun e.label.1 e.before = true ∧
        e.reply.isPurged = false ∧
        ∃ row ∈ e.after.controlStates, row.agentRunId = sampleRun ∧ row.state = .cancelled := by
  have hexec : (exec (step sampleEnv) Store.empty cancelledAfterFinish).any (fun result =>
      clockAdvances result.1 && result.1.any fun e =>
        (e.before.controlStates.rows.any fun row =>
          decide (row.agentRunId = sampleRun ∧ row.state = .completed)) &&
        (deniesCancel sampleRun e.label.1 e.before && (!e.reply.isPurged &&
          e.after.controlStates.rows.any fun row =>
            decide (row.agentRunId = sampleRun ∧ row.state = .cancelled)))) = true := by
    decide +kernel
  obtain ⟨es, db, hrun, hcheck⟩ := exists_run_of_exec hexec
  simp only [Bool.and_eq_true, List.any_eq_true, decide_eq_true_eq, Bool.not_eq_true'] at hcheck
  obtain ⟨hclock, e, he, hbefore, hdenies, hreply, hafter⟩ := hcheck
  exact ⟨es, db, hrun, hclock, e, he, hbefore, hdenies, hreply, hafter⟩

set_option maxRecDepth 4000 in
theorem terminal_control_absorbing_refused :
    ∃ pre e post db, Run (step sampleEnv) Store.empty (pre ++ e :: post) db ∧ post.length = 3 ∧
      ∃ row ∈ e.after.controlStates, row.state = .completed ∧
        (row ∈ db.controlStates ∨ ∃ f ∈ post, purgesRun row.agentRunId f) := by
  have hexec : (exec (step sampleEnv) Store.empty refusedAfterFinish).any
      (cutAt 3 fun _ e post => decide (post.length = 3) &&
        ((e.after.controlStates.rows.any fun row => decide (row.state = .completed)) &&
          post.all fun f => !overwritesTerminal f.before f.label)) = true := by
    decide +kernel
  obtain ⟨pre, e, post, db, hrun, hcheck⟩ := exists_cut_of_exec hexec
  simp only [Bool.and_eq_true, decide_eq_true_eq, List.any_eq_true, List.all_eq_true,
    Bool.not_eq_true'] at hcheck
  obtain ⟨hlength, ⟨row, hrow, hstate⟩, hguard⟩ := hcheck
  have hterminal : row.state.isTerminal = true := by
    rw [hstate]
    rfl
  refine ⟨pre, e, post, db, hrun, hlength, row, hrow, hstate, ?_⟩
  obtain ⟨_, -, hrest⟩ := hrun.split
  cases hrest with
  | cons _ hpost => exact terminal_control_absorbing hpost hguard hrow hterminal

end ControlRows

end ChoiceMind.TaskPersistence
