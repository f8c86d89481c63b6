import ChoiceMind.TaskPersistence.Runs

/-!
# Paused runs

A run that has paused is continued from its snapshot: only a resume request may hand it
out again. The publisher's path reaches it when the worker of a resume is lost.
-/

namespace ChoiceMind.TaskPersistence

set_option autoImplicit false

open Contracts Transition

/-- The step commits a paused outcome of a run. -/
def commitsPause (agentRunId : String) (label : Instant × Action) (reply : Reply) : Bool :=
  match label.2, reply with
  | .complete _ _ (.paused outcome) _, .completion completion =>
    outcome.snapshot.agentRunId = agentRunId && completion ≠ .notCompletable
  | _, _ => false

/-- `claimNext` hands out a run, to be started from the initial command. -/
def startsRun (agentRunId : String) : Reply → Bool
  | .claim (.claimed claim) => claim.agentRunId = agentRunId
  | _ => false

/-- Either claim hands out a run. -/
def handsOutRun (agentRunId : String) : Reply → Bool
  | .claim (.claimed claim) => claim.agentRunId = agentRunId
  | .controlClaim (.claimed claim) => claim.agentRunId = agentRunId
  | _ => false

theorem handsOutRun_of_isInert (agentRunId : String) {reply : Reply} (h : reply.isInert = true) :
    handsOutRun agentRunId reply = false := by
  unfold handsOutRun
  split
  · cases h
  · cases h
  · rfl

theorem startsRun_of_not_handsOutRun {agentRunId : String} {reply : Reply}
    (h : handsOutRun agentRunId reply = false) : startsRun agentRunId reply = false := by
  unfold startsRun
  split
  · exact h
  · rfl

def Action.isControlClaim : Action → Bool
  | .claimNextRuntimeControl .. => true
  | _ => false

/-- A resume request for the run of an operation is stored. -/
def Store.hasResumeRequest (db : Store) (operationId agentRunId : String) : Bool :=
  db.controlRequests.rows.any fun request =>
    request.action.isResume && request.operationId = operationId &&
      request.agentRunId = agentRunId

/-- `claimNext` meets the operation of a run that was resumed and whose lease has ended. -/
def reclaimsResumed (agentRunId : String) (db : Store) (label : Instant × Action) : Bool :=
  match label.2 with
  | .claimNext operationId _ _ => (db.operations.find? operationId).any fun row =>
      row.agentRunId = agentRunId && row.leaseExpired label.1 &&
        db.hasResumeRequest operationId agentRunId
  | _ => false

variable {env : Environment}

/-- After a pause of a run: whoever holds the run has neither to start it, nor runs it
without a resume request. -/
structure ContinuesByResume (env : Environment) (agentRunId : String) (db : Store) : Prop where
  known : RunsKnown env db
  issued : Issued env db agentRunId
  started : ∀ row ∈ db.operations, row.agentRunId = agentRunId → row.state ≠ .accepted
  resumed : ∀ row ∈ db.operations, row.agentRunId = agentRunId → row.state = .running →
    db.hasResumeRequest row.operationId agentRunId = true

section Resumed
variable {db db' : Store} {now : Instant} {action : Action} {reply : Reply}
  {operationId agentRunId : String}

theorem hasResumeRequest_iff : db.hasResumeRequest operationId agentRunId = true ↔
    ∃ request ∈ db.controlRequests, request.action.isResume = true ∧
      request.operationId = operationId ∧ request.agentRunId = agentRunId := by
  simp only [Store.hasResumeRequest, List.any_eq_true, Bool.and_eq_true, decide_eq_true_eq,
    and_assoc]
  exact Iff.rfl

theorem hasResumeRequest_congr (hreqs : db'.controlRequests = db.controlRequests) :
    db'.hasResumeRequest operationId agentRunId = db.hasResumeRequest operationId agentRunId := by
  unfold Store.hasResumeRequest
  rw [hreqs]

/-- Changing the state of requests loses none of them. -/
theorem hasResumeRequest_updateWhere {p : ControlRequest → Bool}
    {f : ControlRequest → ControlRequest}
    {hf : ∀ request, (f request).controlRequestId = request.controlRequestId}
    (hreqs : db'.controlRequests = db.controlRequests.updateWhere p f hf)
    (hkeeps : ∀ request, (f request).action = request.action ∧
      (f request).operationId = request.operationId ∧ (f request).agentRunId = request.agentRunId)
    (h : db.hasResumeRequest operationId agentRunId = true) :
    db'.hasResumeRequest operationId agentRunId = true := by
  rw [hasResumeRequest_iff] at h ⊢
  obtain ⟨request, hrequest, hresume, hoperation, hrun⟩ := h
  obtain ⟨haction, hid, hrunId⟩ := hkeeps request
  rw [hreqs]
  refine ⟨_, Table.mem_updateWhere.mpr ⟨request, hrequest, rfl⟩, ?_⟩
  split
  · rw [haction, hid, hrunId]
    exact ⟨hresume, hoperation, hrun⟩
  · exact ⟨hresume, hoperation, hrun⟩

theorem hasResumeRequest_insert {request : ControlRequest}
    (hreqs : db.controlRequests.insert? request = some db'.controlRequests)
    (h : db.hasResumeRequest operationId agentRunId = true) :
    db'.hasResumeRequest operationId agentRunId = true := by
  rw [hasResumeRequest_iff] at h ⊢
  obtain ⟨old, hold, hold'⟩ := h
  exact ⟨old, (Table.mem_insert? hreqs).mpr (.inl hold), hold'⟩

theorem hasResumeRequest_finishRequests {controlRequestId : Option String}
    {workerId completedId : String} {payload : PersistentOutcome}
    (hreqs : db'.controlRequests =
      finishRequests controlRequestId completedId workerId payload now db.controlRequests)
    (h : db.hasResumeRequest operationId agentRunId = true) :
    db'.hasResumeRequest operationId agentRunId = true := by
  unfold finishRequests at hreqs
  split at hreqs
  · rw [hasResumeRequest_congr hreqs]
    exact h
  · exact hasResumeRequest_updateWhere hreqs (fun _ => ⟨rfl, rfl, rfl⟩) h

/-- Outside the guarded case, a claim hands out another run. -/
theorem ContinuesByResume.claimed_ne (h : ContinuesByResume env agentRunId db) {row : Operation}
    {claimedRunId workerId : String} {leaseDurationMs : Nat}
    (hrow : db.operations.find? operationId = some row) (hclaimable : row.claimable now = true)
    (hguard : reclaimsResumed agentRunId db
      (now, .claimNext operationId workerId leaseDurationMs) = false)
    (hrun : ClaimedRun env db row claimedRunId db') : claimedRunId ≠ agentRunId := by
  obtain ⟨hmem, hkey⟩ := Table.find?_eq_some.mp hrow
  cases hrun with
  | retried hstate hrun hdrawn hruns =>
    rw [hrun]
    exact h.issued.ne_fresh.symm
  | current hstate hrun hdrawn hruns =>
    rw [hrun]
    intro hsame
    simp only [Operation.claimable, hstate, h.started row hmem hsame, decide_false,
      Bool.false_or] at hclaimable
    have hrunning : row.state = .running := by
      simp only [Operation.leaseExpired, Bool.and_eq_true, decide_eq_true_eq] at hclaimable
      exact hclaimable.1
    have hresumed := h.resumed row hmem hsame hrunning
    rw [hkey] at hresumed
    simp [reclaimsResumed, hrow, hclaimable, hsame, hresumed] at hguard

/-- A change that keeps the requests and moves no operation into a claimable state. -/
theorem ContinuesByResume.of_kept (h : ContinuesByResume env agentRunId db)
    (hchange : Change env db now action reply db') (hdrawn : db.uuidsDrawn ≤ db'.uuidsDrawn)
    (hops : ∀ row ∈ db'.operations, row.agentRunId = agentRunId →
      row.state ≠ .accepted ∧ (row.state = .running →
        db'.hasResumeRequest row.operationId agentRunId = true)) :
    ContinuesByResume env agentRunId db' where
  known := h.known.change hchange
  issued := h.issued.mono hdrawn
  started row hrow hrun := (hops row hrow hrun).1
  resumed row hrow hrun := (hops row hrow hrun).2

theorem ContinuesByResume.change (h : ContinuesByResume env agentRunId db)
    (hguard : reclaimsResumed agentRunId db (now, action) = false)
    (hchange : Change env db now action reply db') : ContinuesByResume env agentRunId db' := by
  -- what an untouched operation keeps when the requests are kept
  have huntouched : (∀ operationId, db.hasResumeRequest operationId agentRunId = true →
        db'.hasResumeRequest operationId agentRunId = true) →
      ∀ row ∈ db.operations, row.agentRunId = agentRunId →
        row.state ≠ .accepted ∧ (row.state = .running →
          db'.hasResumeRequest row.operationId agentRunId = true) :=
    fun hkept row hrow hrun =>
      ⟨h.started row hrow hrun, fun hstate => hkept _ (h.resumed row hrow hrun hstate)⟩
  have hsaved := hchange
  cases hchange with
  | frame hsame hreply =>
    refine h.of_kept hsaved hsame.drawn_le ?_
    rw [hsame.operations]
    exact huntouched fun operationId hhas =>
      (hasResumeRequest_congr hsame.controlRequests).trans hhas
  | submitted hops hreqs hdrawn hruns =>
    refine h.of_kept hsaved (Nat.le_of_lt hdrawn) ?_
    intro row hrow hrun
    rcases (Table.mem_insert? hops).mp hrow with hold | rfl
    · exact huntouched (fun _ hhas => (hasResumeRequest_congr hreqs).trans hhas) row hold hrun
    · exact absurd hrun.symm h.issued.ne_fresh
  | claimed hrow hclaimable hops hreqs hrun =>
    refine h.of_kept hsaved hrun.drawn_le ?_
    intro row hin hrunId
    rw [hops] at hin
    obtain ⟨old, hold, rfl⟩ := Table.mem_update.mp hin
    split at hrunId
    · exact absurd hrunId (h.claimed_ne hrow hclaimable hguard hrun)
    · rename_i hkey
      rw [if_neg hkey]
      exact huntouched (fun _ hhas => (hasResumeRequest_congr hreqs).trans hhas) old hold hrunId
  | controlRejected hrequest hclaimable hops hreqs hdrawn hruns =>
    refine h.of_kept hsaved hdrawn ?_
    rw [hops]
    exact huntouched fun _ => hasResumeRequest_updateWhere hreqs fun _ => ⟨rfl, rfl, rfl⟩
  | @controlClaimed workerId leaseDurationMs skipped row claim _ hrequest hclaimable hoperation
      hconsistent hops hreqs hclaim hrun hdrawn hruns =>
    have hkept : ∀ operationId, db.hasResumeRequest operationId agentRunId = true →
        db'.hasResumeRequest operationId agentRunId = true :=
      fun _ => hasResumeRequest_updateWhere hreqs fun _ => ⟨rfl, rfl, rfl⟩
    obtain ⟨hmem, hid⟩ := Table.find?_eq_some.mp hoperation
    refine h.of_kept hsaved hdrawn ?_
    intro r hr hrunId
    rw [hops] at hr
    obtain ⟨old, hold, rfl⟩ := Table.mem_update.mp hr
    split at hrunId
    · -- the request that leases the operation is itself the resume request
      rename_i hkey
      rw [if_pos hkey]
      refine ⟨by simp [leaseOperation], fun _ => hkept _ ?_⟩
      obtain rfl := Table.eq_of_key_eq hold hmem (hkey.trans hid.symm)
      rw [hasResumeRequest_iff]
      rw [ControlRequest.claimable, Bool.and_eq_true] at hclaimable
      exact ⟨row.request, hrequest, hclaimable.1, hkey.symm,
        (h.known.consistent hmem hconsistent).1.trans hrunId⟩
    · rename_i hkey
      rw [if_neg hkey]
      exact huntouched hkept old hold hrunId
  | @completed operationId workerId outcome controlRequestId completion row decoded settle _
      hrow hdecoded hcompletable hsettle hcommitted hops hreqs hdrawn hruns =>
    obtain ⟨haccepted, hrunning, -⟩ := decodePersistentOutcome_state hdecoded
    refine h.of_kept hsaved hdrawn ?_
    intro r hr hrunId
    rw [hops] at hr
    obtain ⟨old, hold, rfl⟩ := Table.mem_update.mp hr
    split at hrunId
    · rename_i hkey
      rw [if_pos hkey, hsettle.state]
      exact ⟨haccepted, fun hstate => absurd hstate hrunning⟩
    · rename_i hkey
      rw [if_neg hkey]
      exact huntouched (fun _ => hasResumeRequest_finishRequests hreqs) old hold hrunId
  | resumeRequested hoperation hpaused hops hreqs hdrawn hruns =>
    refine h.of_kept hsaved hdrawn ?_
    rw [hops]
    exact huntouched fun _ => hasResumeRequest_insert hreqs
  | cancelled hoperation hops hreqs hdrawn hruns =>
    refine h.of_kept hsaved hdrawn ?_
    intro r hr hrunId
    rw [hops] at hr
    obtain ⟨old, hold, rfl⟩ := Table.mem_update.mp hr
    split at hrunId
    · rename_i hkey
      rw [if_pos hkey]
      exact ⟨by simp [cancelledOperation], fun hstate => by cases hstate⟩
    · rename_i hkey
      rw [if_neg hkey]
      exact huntouched (fun _ => hasResumeRequest_insert hreqs) old hold hrunId
  | purged hops hreqs hruns hevents hdrawn =>
    refine h.of_kept hsaved hdrawn ?_
    intro r hr hrunId
    rw [hops] at hr
    obtain ⟨hold, houtside⟩ := Table.mem_deleteWhere.mp hr
    refine ⟨h.started r hold hrunId, fun hstate => ?_⟩
    have hhas := h.resumed r hold hrunId hstate
    rw [hasResumeRequest_iff] at hhas ⊢
    obtain ⟨request, hrequest, hresume, hsame, hrun⟩ := hhas
    refine ⟨request, ?_, hresume, hsame, hrun⟩
    rw [hreqs, Table.mem_deleteWhere, hsame]
    exact ⟨hrequest, houtside⟩

/-- The commit of a pause establishes the invariant for its run. -/
theorem RunsKnown.pause (h : RunsKnown env db) (hchange : Change env db now action reply db')
    (hpause : commitsPause agentRunId (now, action) reply = true) :
    ContinuesByResume env agentRunId db' := by
  have hsaved := hchange
  cases hchange with
  | @completed operationId workerId outcome controlRequestId completion row decoded settle _
      hrow hdecoded hcompletable hsettle hcommitted hops hreqs hdrawn hruns =>
    cases outcome with
    | result result => cases hpause
    | failure outcome => cases hpause
    | paused outcome =>
      simp only [commitsPause, Bool.and_eq_true, decide_eq_true_eq] at hpause
      obtain ⟨-, rfl⟩ := decodePersistentOutcome_paused hdecoded
      obtain ⟨hmem, hkey⟩ := Table.find?_eq_some.mp hrow
      simp only [Operation.completableBy, Option.all_some, Bool.and_eq_true,
        decide_eq_true_eq] at hcompletable
      have hcurrent : row.agentRunId = agentRunId := hcompletable.1.2.trans hpause.1
      -- only the paused operation has this run
      have honly : ∀ r ∈ db'.operations, r.agentRunId = agentRunId →
          r.state = .paused outcome.state := by
        intro r hr hrun
        rw [hops] at hr
        obtain ⟨old, hold, rfl⟩ := Table.mem_update.mp hr
        split at hrun
        · rename_i hsame
          rw [if_pos hsame, hsettle.state]
        · rename_i hother
          obtain rfl := h.unique old hold row hmem (hrun.trans hcurrent.symm)
          exact absurd hkey hother
      refine ⟨h.change hsaved, ?_, ?_, ?_⟩
      · exact hcurrent ▸ (h.issued row hmem).mono hdrawn
      · intro r hr hrun
        rw [honly r hr hrun]
        simp
      · intro r hr hrun hstate
        rw [honly r hr hrun] at hstate
        cases hstate
  | @frame _ reply _ hsame hreply =>
    unfold commitsPause at hpause
    split at hpause
    · simp [Reply.isInert] at hreply
      simp [hreply] at hpause
    · cases hpause
  | _ => cases hpause

/-- Under the invariant the run is handed out by a resume request only. -/
theorem ContinuesByResume.handsOut (h : ContinuesByResume env agentRunId db)
    (hguard : reclaimsResumed agentRunId db (now, action) = false)
    (hchange : Change env db now action reply db') :
    startsRun agentRunId reply = false ∧
      (handsOutRun agentRunId reply = true → action.isControlClaim = true) := by
  cases hchange with
  | claimed hrow hclaimable hops hreqs hrun =>
    have hother := h.claimed_ne hrow hclaimable hguard hrun
    simp [startsRun, handsOutRun, hother]
  | frame hsame hreply =>
    have hnone := handsOutRun_of_isInert agentRunId hreply
    exact ⟨startsRun_of_not_handsOutRun hnone, by simp [hnone]⟩
  | _ => simp [startsRun, handsOutRun, Action.isControlClaim]

end Resumed

section Runs
variable {db : Store} {agentRunId : String}
  {pre post : List (Entry Store (Instant × Action) Reply)}
  {e : Entry Store (Instant × Action) Reply}

/-- Once a pause of a run is committed, the run is handed out by resume requests only,
provided `claimNext` does not reclaim the operation of the resumed run. -/
theorem paused_run_resumes_only (h : Run (step env) Store.empty (pre ++ e :: post) db)
    (hpause : commitsPause agentRunId e.label e.reply = true)
    (hguard : Guarded (fun db label => reclaimsResumed agentRunId db label = false) post) :
    ∀ f ∈ post, startsRun agentRunId f.reply = false ∧
      (handsOutRun agentRunId f.reply = true → f.label.2.isControlClaim = true) := by
  obtain ⟨db₁, hpre, hrest⟩ := h.split
  have hknown := runsKnown_of_run hpre
  cases hrest with
  | cons hstep hpost =>
    have hcontinues := hknown.pause (step_change hstep) hpause
    refine hpost.forall_entry
      (P := fun _ label reply _ => startsRun agentRunId reply = false ∧
        (handsOutRun agentRunId reply = true → label.2.isControlClaim = true))
      ?_ ?_ hguard hcontinues
    · intro s t a r hs hG hstep
      exact hs.change hG (step_change hstep)
    · intro s t a r hs hG hstep
      exact hs.handsOut hG (step_change hstep)

end Runs

section Sample

/-- The worker of the resume is lost and its operation claimed from the stream. -/
def lostResumeSchedule : List (Instant × Action) :=
  resumedSchedule ++ [(20, .claimNext sampleOperation "worker-2" 10)]

set_option maxRecDepth 4000 in
/-- The paused run is handed to worker 2 as a run to be started. -/
theorem lost_resume_starts_paused_run :
    ∃ pre e post db, Run (step sampleEnv) Store.empty (pre ++ e :: post) db ∧
      clockAdvances (pre ++ e :: post) = true ∧
      commitsPause sampleRun e.label e.reply = true ∧
      ∃ f ∈ post, startsRun sampleRun f.reply = true := by
  have hexec : (exec (step sampleEnv) Store.empty lostResumeSchedule).any
      (cutAt 4 fun pre e post => clockAdvances (pre ++ e :: post) &&
        commitsPause sampleRun e.label e.reply &&
        post.any fun f => startsRun sampleRun f.reply) = true := by
    decide +kernel
  obtain ⟨pre, e, post, db, hrun, hcheck⟩ := exists_cut_of_exec hexec
  rw [Bool.and_eq_true, Bool.and_eq_true, List.any_eq_true] at hcheck
  exact ⟨pre, e, post, db, hrun, hcheck.1.1, hcheck.1.2, hcheck.2⟩

set_option maxRecDepth 4000 in
theorem paused_run_resumes_only_resumed :
    ∃ pre e post db, Run (step sampleEnv) Store.empty (pre ++ e :: post) db ∧
      commitsPause sampleRun e.label e.reply = true ∧
      (∃ f ∈ post, handsOutRun sampleRun f.reply = true) ∧
      ∀ f ∈ post, startsRun sampleRun f.reply = false ∧
        (handsOutRun sampleRun f.reply = true → f.label.2.isControlClaim = true) := by
  have hexec : (exec (step sampleEnv) Store.empty resumedSchedule).any
      (cutAt 4 fun _ e post => commitsPause sampleRun e.label e.reply &&
        (post.any fun f => handsOutRun sampleRun f.reply) &&
        post.all fun f => !reclaimsResumed sampleRun f.before f.label) = true := by
    decide +kernel
  obtain ⟨pre, e, post, db, hrun, hcheck⟩ := exists_cut_of_exec hexec
  rw [Bool.and_eq_true, Bool.and_eq_true, List.any_eq_true, List.all_eq_true] at hcheck
  refine ⟨pre, e, post, db, hrun, hcheck.1.1, hcheck.1.2,
    paused_run_resumes_only hrun hcheck.1.1 fun f hf => ?_⟩
  simpa using hcheck.2 f hf

end Sample

end ChoiceMind.TaskPersistence
