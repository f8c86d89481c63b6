import ChoiceMind.TaskPersistence.Isolation
import ChoiceMind.TaskPersistence.Requests

/-!
# Repeated control requests

A stored request keeps what it asks for, so a repeated call meets it again. It is compared
with the newest operation of the task and that operation's current run.
-/

namespace ChoiceMind.TaskPersistence

set_option autoImplicit false

open Contracts Transition

variable {env : Environment} {db db' : Store} {now : Instant} {action : Action} {reply : Reply}
  {ownerUserId operationId : String}

section Kept

/-- A submission stays until its owner is purged. -/
theorem Change.submission_kept (h : Change env db now action reply db') {submission : Submission}
    (hmem : submission ∈ db.submissions)
    (hunpurged : commitsPurge submission.ownerUserId (now, action) reply = false) :
    submission ∈ db'.submissions := by
  have hkept : db'.submissions = db.submissions → submission ∈ db'.submissions := by
    intro hsame
    rw [hsame]
    exact hmem
  cases h with
  | frame hsame hreply => exact hkept hsame.submissions
  | submitted hops hreqs hdrawn hruns hsubmissions =>
    exact (Table.mem_insert? hsubmissions).mpr (.inl hmem)
  | claimed hrow hclaimable hops hreqs hrun =>
    cases hrun with
    | current hstate hrun hdrawn hruns => exact hkept hruns.submissions
    | retried hstate hrun hdrawn hruns hsubmissions => exact hkept hsubmissions
  | controlRejected hrequest hclaimable hops hreqs hdrawn hruns => exact hkept hruns.submissions
  | controlClaimed hrequest hclaimable hoperation hconsistent hops hreqs hclaim hrun hdrawn
      hruns => exact hkept hruns.submissions
  | completed hrow hdecoded hcompletable hsettle hcommitted hops hreqs hdrawn hruns =>
    exact hkept hruns.submissions
  | resumeRequested hoperation hpaused hops hreqs hdrawn hruns => exact hkept hruns.submissions
  | cancelled hoperation hops hreqs hdrawn hruns => exact hkept hruns.submissions
  | @purged purged result _ hops hreqs hruns hevents hdrawn hsubmissions =>
    rw [hsubmissions, Table.mem_deleteWhere]
    refine ⟨hmem, decide_eq_false fun hof => ?_⟩
    rw [hof, commitsPurge_purged] at hunpurged
    cases hunpurged

/-- The same operation at a later time. -/
structure SameOperation (row later : Operation) : Prop where
  operationId : later.operationId = row.operationId
  executionRequestId : later.executionRequestId = row.executionRequestId
  decisionTaskId : later.decisionTaskId = row.decisionTaskId
  createdAt : later.createdAt = row.createdAt

theorem SameOperation.refl (row : Operation) : SameOperation row row := ⟨rfl, rfl, rfl, rfl⟩

theorem mem_update_same {operations : Table Operation.operationId} {f : Operation → Operation}
    {hf : ∀ row, (f row).operationId = row.operationId} (hsame : ∀ row, SameOperation row (f row))
    {row : Operation} (hrow : row ∈ operations) :
    ∃ later ∈ operations.update operationId f hf, SameOperation row later := by
  refine ⟨_, Table.mem_update.mpr ⟨row, hrow, rfl⟩, ?_⟩
  split
  · exact hsame row
  · exact .refl row

/-- An operation stays until its owner is purged. -/
theorem Change.operation_kept (h : Change env db now action reply db') {row : Operation}
    (hrow : row ∈ db.operations) (hunpurged : ∀ owner, db.ownerOf row = some owner →
      commitsPurge owner (now, action) reply = false) :
    ∃ later ∈ db'.operations, SameOperation row later := by
  have hkept : db'.operations = db.operations → ∃ later ∈ db'.operations,
      SameOperation row later := by
    intro hsame
    rw [hsame]
    exact ⟨row, hrow, .refl row⟩
  cases h with
  | frame hsame hreply => exact hkept hsame.operations
  | submitted hops hreqs hdrawn hruns =>
    exact ⟨row, (Table.mem_insert? hops).mpr (.inl hrow), .refl row⟩
  | claimed hfound hclaimable hops hreqs hrun =>
    rw [hops]
    refine mem_update_same ?_ hrow
    exact fun _ => ⟨rfl, rfl, rfl, rfl⟩
  | controlRejected hrequest hclaimable hops => exact hkept hops
  | controlClaimed hrequest hclaimable hoperation hconsistent hops =>
    rw [hops]
    refine mem_update_same ?_ hrow
    exact fun _ => ⟨rfl, rfl, rfl, rfl⟩
  | completed hfound hdecoded hcompletable hsettle hcommitted hops =>
    rw [hops]
    exact mem_update_same (fun row => ⟨hsettle.operationId row, hsettle.executionRequestId row,
      hsettle.decisionTaskId row, hsettle.createdAt row⟩) hrow
  | resumeRequested hoperation hpaused hops => exact hkept hops
  | cancelled hoperation hops =>
    rw [hops]
    refine mem_update_same ?_ hrow
    exact fun _ => ⟨rfl, rfl, rfl, rfl⟩
  | @purged purged result _ hops =>
    refine ⟨row, ?_, .refl row⟩
    rw [hops, Table.mem_deleteWhere]
    refine ⟨hrow, decide_eq_false fun hin => ?_⟩
    rw [mem_scope_operationIds, operationOwner_of_mem hrow] at hin
    have hpurge := hunpurged purged hin
    rw [commitsPurge_purged] at hpurge
    cases hpurge

theorem Change.operationOwner_kept (h : Change env db now action reply db')
    (howner : db.operationOwner operationId = some ownerUserId)
    (hunpurged : commitsPurge ownerUserId (now, action) reply = false) :
    db'.operationOwner operationId = some ownerUserId := by
  obtain ⟨row, hrow, rfl, hof⟩ := operationOwner_eq_some.mp howner
  obtain ⟨submission, hmem, rfl, hkey⟩ := ownerOf_eq_some.mp hof
  obtain ⟨later, hlater, hsame⟩ := h.operation_kept hrow fun owner hother => by
    rw [hof] at hother
    cases hother
    exact hunpurged
  refine operationOwner_eq_some.mpr ⟨later, hlater, hsame.operationId, ownerOf_eq_some.mpr ?_⟩
  exact ⟨submission, h.submission_kept hmem hunpurged, rfl,
    hkey.trans hsame.executionRequestId.symm⟩

/-- A request stays, and keeps what it asks for, until the owner of its operation is purged. -/
theorem Change.request_kept (h : Change env db now action reply db') {request : ControlRequest}
    (hrequest : request ∈ db.controlRequests)
    (howner : db.operationOwner request.operationId = some ownerUserId)
    (hunpurged : commitsPurge ownerUserId (now, action) reply = false) :
    ∃ later ∈ db'.controlRequests, SameRequest request later := by
  have hchange := h.requests
  cases hchange with
  | kept hkept => exact hkept.kept request hrequest
  | resumeRequested hoperation hinsert =>
    exact ⟨request, (Table.mem_insert? hinsert).mpr (.inl hrequest), .refl request⟩
  | cancelled hoperation hinsert =>
    exact ⟨request, (Table.mem_insert? hinsert).mpr (.inl hrequest), .refl request⟩
  | @purged purged _ hrequests =>
    refine ⟨request, ?_, .refl request⟩
    cases h with
    | frame hsame hreply =>
      rw [hsame.controlRequests]
      exact hrequest
    | purged hops hreqs =>
      rw [hreqs, Table.mem_deleteWhere]
      refine ⟨hrequest, decide_eq_false fun hin => ?_⟩
      rw [mem_scope_operationIds, howner] at hin
      cases hin
      rw [commitsPurge_purged] at hunpurged
      cases hunpurged

/-- A stored request and the owner of its operation, after further steps without a purge. -/
theorem request_kept_along {es : List (Entry Store (Instant × Action) Reply)}
    (h : Run (step env) db es db') {request : ControlRequest}
    (hrequest : request ∈ db.controlRequests)
    (howner : db.operationOwner request.operationId = some ownerUserId)
    (hunpurged : ∀ e ∈ es, commitsPurge ownerUserId e.label e.reply = false) :
    ∃ later ∈ db'.controlRequests, SameRequest request later := by
  induction h generalizing request with
  | nil => exact ⟨request, hrequest, .refl request⟩
  | cons hstep hrest ih =>
    have hchange := step_change hstep
    have hfirst := hunpurged _ List.mem_cons_self
    obtain ⟨next, hnext, hsame⟩ := hchange.request_kept hrequest howner hfirst
    have howned := hchange.operationOwner_kept howner hfirst
    rw [← hsame.operationId] at howned
    obtain ⟨later, hlater, hlast⟩ := ih hnext howned fun e he =>
      hunpurged e (List.mem_cons_of_mem _ he)
    exact ⟨later, hlater, hsame.trans hlast⟩

end Kept

section Readable

/-- A control error that the completion names has a message. -/
def namesErrors : Action → Bool
  | .complete _ _ (.failure outcome) _ =>
    outcome.runtimeControlError.all fun error => isMeaningful error.message
  | _ => true

/-- The stored requests have a status that can be read. -/
def StatusReadable (db : Store) : Prop :=
  ∀ request ∈ db.controlRequests, (toRuntimeControlStatus request).isOk = true

theorem readable_of_not_failed {request : ControlRequest} (h : request.state ≠ .failed) :
    (toRuntimeControlStatus request).isOk = true := by
  unfold toRuntimeControlStatus
  simp only [h, if_false, false_and]
  rfl

theorem readable_of_error {request : ControlRequest} {error : RuntimeControlError}
    (hpayload : request.resultPayload = some (.error error))
    (hmessage : isMeaningful error.message = true) :
    (toRuntimeControlStatus request).isOk = true := by
  have hdecoded : decodeRuntimeControlError request.resultPayload = some error := by
    rw [hpayload, decodeRuntimeControlError, if_pos hmessage]
  unfold toRuntimeControlStatus
  simp only [hdecoded]
  by_cases hstate : request.state = .failed <;> simp [hstate, Except.isOk, Except.toBool]

theorem meaningful_of_paused {outcome : RuntimePausedOutcome}
    (h : decodeRuntimePausedOutcomeV1 outcome = .ok outcome) :
    isMeaningful outcome.summary = true := by
  unfold decodeRuntimePausedOutcomeV1 at h
  split at h
  · cases h
  rename_i hchecks
  rw [Bool.not_eq_true', Bool.not_eq_false, fieldChecksHold, List.all_eq_true] at hchecks
  exact hchecks ⟨"summary", isMeaningful outcome.summary⟩ List.mem_cons_self

/-- The error of a decoded outcome has a message. -/
theorem meaningful_of_decoded {outcome : PersistentOutcome} {decoded : DecodedOutcome}
    {operationId workerId : String} {controlRequestId : Option String}
    {error : RuntimeControlError} (hdecoded : decodePersistentOutcome outcome = .ok decoded)
    (hnamed : namesErrors (.complete operationId workerId outcome controlRequestId) = true)
    (herror : runtimeControlErrorFromOutcome decoded.payload = some error) :
    isMeaningful error.message = true := by
  cases outcome with
  | paused outcome =>
    obtain ⟨hpaused, rfl⟩ := decodePersistentOutcome_paused hdecoded
    cases herror
    exact meaningful_of_paused hpaused
  | result result =>
    obtain ⟨-, ⟨value, -, rfl⟩ | ⟨value, -, rfl⟩⟩ := decodePersistentOutcome_result hdecoded <;>
      cases herror
  | failure outcome =>
    have hsummary : isMeaningful outcome.summary = true := by
      simp only [decodePersistentOutcome] at hdecoded
      split at hdecoded
      · assumption
      · cases hdecoded
    obtain rfl := decodePersistentOutcome_failure hdecoded
    simp only [runtimeControlErrorFromOutcome] at herror
    split at herror
    · rename_i named hcontrol
      cases herror
      simpa only [namesErrors, hcontrol, Option.all_some] using hnamed
    · split at herror
      · cases herror
      · cases herror
        exact hsummary

theorem readable_finishControlRequest {outcome : PersistentOutcome} {decoded : DecodedOutcome}
    {workerId : String} {controlRequestId : Option String} {request : ControlRequest}
    (hdecoded : decodePersistentOutcome outcome = .ok decoded)
    (hnamed : namesErrors (.complete operationId workerId outcome controlRequestId) = true) :
    (toRuntimeControlStatus (finishControlRequest decoded.payload now request)).isOk = true := by
  cases herror : runtimeControlErrorFromOutcome decoded.payload with
  | none => exact readable_of_not_failed (by simp [finishControlRequest, herror])
  | some error =>
    have hpayload : (finishControlRequest decoded.payload now request).resultPayload =
        some (.error error) := by
      simp [finishControlRequest, herror]
    exact readable_of_error hpayload (meaningful_of_decoded hdecoded hnamed herror)

theorem StatusReadable.of_eq (h : StatusReadable db)
    (hreqs : db'.controlRequests = db.controlRequests) : StatusReadable db' := by
  unfold StatusReadable
  rw [hreqs]
  exact h

theorem readable_updateWhere (h : StatusReadable db) {p : ControlRequest → Bool}
    {f : ControlRequest → ControlRequest}
    {hf : ∀ request, (f request).controlRequestId = request.controlRequestId}
    (hchanged : ∀ request, (toRuntimeControlStatus (f request)).isOk = true) :
    ∀ request ∈ db.controlRequests.updateWhere p f hf,
      (toRuntimeControlStatus request).isOk = true := by
  intro request hrequest
  obtain ⟨old, hold, rfl⟩ := Table.mem_updateWhere.mp hrequest
  split
  · exact hchanged old
  · exact h old hold

theorem readable_insert (h : StatusReadable db) {request : ControlRequest}
    {requests : Table ControlRequest.controlRequestId}
    (hinsert : db.controlRequests.insert? request = some requests)
    (hstate : request.state ≠ .failed) :
    ∀ stored ∈ requests, (toRuntimeControlStatus stored).isOk = true := by
  intro stored hstored
  rcases (Table.mem_insert? hinsert).mp hstored with hold | rfl
  · exact h stored hold
  · exact readable_of_not_failed hstate

theorem statusReadable_empty : StatusReadable Store.empty := by
  intro request hrequest
  cases hrequest

theorem StatusReadable.change (h : StatusReadable db)
    (hchange : Change env db now action reply db') (hnamed : namesErrors action = true) :
    StatusReadable db' := by
  cases hchange with
  | frame hsame hreply => exact h.of_eq hsame.controlRequests
  | submitted hops hreqs => exact h.of_eq hreqs
  | claimed hrow hclaimable hops hreqs => exact h.of_eq hreqs
  | controlRejected hrequest hclaimable hops hreqs hdrawn hruns hquiet hmessage =>
    unfold StatusReadable
    rw [hreqs]
    exact readable_updateWhere h fun request => readable_of_error rfl hmessage
  | controlClaimed hrequest hclaimable hoperation hconsistent hops hreqs =>
    unfold StatusReadable
    rw [hreqs]
    exact readable_updateWhere h fun request => readable_of_not_failed nofun
  | completed hrow hdecoded hcompletable hsettle hcommitted hops hreqs =>
    unfold StatusReadable
    rw [hreqs]
    unfold finishRequests
    split
    · exact h
    · exact readable_updateWhere h fun request => readable_finishControlRequest hdecoded hnamed
  | resumeRequested hoperation hpaused hops hreqs => exact readable_insert h hreqs nofun
  | cancelled hoperation hops hreqs => exact readable_insert h hreqs nofun
  | purged hops hreqs =>
    intro request hrequest
    rw [hreqs, Table.mem_deleteWhere] at hrequest
    exact h request hrequest.1

theorem statusReadable_of_run {es : List (Entry Store (Instant × Action) Reply)}
    (h : Run (step env) Store.empty es db)
    (hnamed : Guarded (fun _ label => namesErrors label.2 = true) es) : StatusReadable db :=
  h.invariant (fun hreadable hguard hstep => hreadable.change (step_change hstep) hguard) hnamed
    statusReadable_empty

end Readable

section Replay
variable {request : ControlRequest} {operation : Operation}

/-- The id, task and owner that a control call names. -/
structure ControlCall where
  controlRequestId : String
  decisionTaskId : String
  ownerUserId : String

def Action.controlCall? : Action → Option ControlCall
  | .requestRuntimeResume input =>
    some ⟨input.controlRequestId, input.decisionTaskId, input.ownerUserId⟩
  | .requestRuntimeCancel input =>
    some ⟨input.controlRequestId, input.decisionTaskId, input.ownerUserId⟩
  | _ => none

/-- The row that a control call asks for, about the operation it has found. -/
def Action.asksFor (operation : Operation) (now : Instant) : Action → Option ControlRequest
  | .requestRuntimeResume input => some (resumeRequest input operation now)
  | .requestRuntimeCancel input => some (cancelRequest input operation now)
  | _ => none

/-- The egress confirmation of a resume names the request and its owner. -/
def Action.confirmed : Action → Bool
  | .requestRuntimeResume input =>
    input.egressConfirmation.operationId = input.controlRequestId &&
      input.egressConfirmation.userId = input.ownerUserId
  | _ => true

/-- The reply to a call that differs from the stored request of its id. -/
def differingReply (db : Store) (action : Action) (call : ControlCall) : Reply :=
  if !action.confirmed then .failed .runtimeResumeDenied
  else if (db.latestOperation call.decisionTaskId call.ownerUserId).isNone then
    .controlStatus none
  else .failed (.idempotencyConflict call.controlRequestId)

/-- What a request asks for, apart from the operation and the run it found. -/
def ControlRequest.content (request : ControlRequest) :
    String × String × ControlAction × String × Option EgressConfirmation :=
  (request.decisionTaskId, request.ownerUserId, request.action, request.correlationId,
    request.confirmation)

theorem repeats_iff {existing : ControlRequest} : existing.repeats request = true ↔
    existing.operationId = request.operationId ∧ existing.agentRunId = request.agentRunId ∧
      existing.content = request.content := by
  simp only [ControlRequest.repeats, ControlRequest.content, Bool.and_eq_true, decide_eq_true_eq,
    Prod.mk.injEq]
  tauto

theorem SameRequest.content {later : ControlRequest} (h : SameRequest request later) :
    later.content = request.content := by
  simp only [ControlRequest.content, h.decisionTaskId, h.ownerUserId, h.action, h.correlationId,
    h.confirmation]

theorem asksFor_operation {asked : ControlRequest}
    (h : action.asksFor operation now = some asked) :
    asked.operationId = operation.operationId ∧ asked.agentRunId = operation.agentRunId := by
  cases action with
  | requestRuntimeResume input =>
    cases h
    exact ⟨rfl, rfl⟩
  | requestRuntimeCancel input =>
    cases h
    exact ⟨rfl, rfl⟩
  | _ => cases h

theorem asksFor_some {call : ControlCall} (hcall : action.controlCall? = some call)
    (operation operation' : Operation) (now now' : Instant) :
    ∃ asked asked', action.asksFor operation now = some asked ∧
      action.asksFor operation' now' = some asked' ∧ asked'.content = asked.content := by
  cases action with
  | requestRuntimeResume input => exact ⟨_, _, rfl, rfl, rfl⟩
  | requestRuntimeCancel input => exact ⟨_, _, rfl, rfl, rfl⟩
  | _ => cases hcall

/-- Calls of one id that ask for the same are the same call. -/
theorem eq_of_content {other : Action} {operation' : Operation} {now' : Instant}
    {call call' : ControlCall} {asked asked' : ControlRequest}
    (hcall : action.controlCall? = some call) (hcall' : other.controlCall? = some call')
    (hid : call'.controlRequestId = call.controlRequestId)
    (hasked : action.asksFor operation now = some asked)
    (hasked' : other.asksFor operation' now' = some asked')
    (hcontent : asked'.content = asked.content) : other = action := by
  cases action with
  | requestRuntimeResume input =>
    cases other with
    | requestRuntimeResume input' =>
      cases hcall
      cases hcall'
      cases hasked
      cases hasked'
      simp only [ControlRequest.content, resumeRequest, Prod.mk.injEq, ControlAction.resume.injEq,
        Option.some.injEq] at hcontent
      obtain ⟨htask, howner, hsnapshot, hcorrelation, hconfirmation⟩ := hcontent
      cases input
      cases input'
      cases hid
      cases htask
      cases howner
      cases hsnapshot
      cases hcorrelation
      cases hconfirmation
      rfl
    | requestRuntimeCancel input' =>
      cases hasked
      cases hasked'
      cases congrArg (fun content => content.2.2.1) hcontent
    | _ => cases hcall'
  | requestRuntimeCancel input =>
    cases other with
    | requestRuntimeCancel input' =>
      cases hcall
      cases hcall'
      cases hasked
      cases hasked'
      simp only [ControlRequest.content, cancelRequest, Prod.mk.injEq,
        ControlAction.cancel.injEq] at hcontent
      obtain ⟨htask, howner, hcancellation, hcorrelation, -⟩ := hcontent
      cases input
      cases input'
      cases hid
      cases htask
      cases howner
      cases hcancellation
      cases hcorrelation
      rfl
    | requestRuntimeResume input' =>
      cases hasked
      cases hasked'
      cases congrArg (fun content => content.2.2.1) hcontent
    | _ => cases hcall'
  | _ => cases hcall

variable {call : ControlCall} {asked existing : ControlRequest} {status : RuntimeControlStatus}

theorem repeats_self (request : ControlRequest) : request.repeats request = true :=
  repeats_iff.mpr ⟨rfl, rfl, rfl⟩

theorem resume_stored {input : RuntimeResumeRequestInput}
    (h : requestRuntimeResume input now db = .ok (some status, db')) :
    (Action.requestRuntimeResume input).confirmed = true ∧ ∃ operation request,
      db.latestOperation input.decisionTaskId input.ownerUserId = some operation ∧
      request ∈ db'.controlRequests ∧ request.controlRequestId = input.controlRequestId ∧
      request.repeats (resumeRequest input operation now) = true := by
  unfold requestRuntimeResume at h
  split at h
  · cases h
  rename_i hconfirmed
  rw [not_or, not_not, not_not] at hconfirmed
  refine ⟨by simp [Action.confirmed, hconfirmed], ?_⟩
  split at h
  · cases h
  rename_i operation hlatest
  simp only at h
  split at h
  · rename_i existing hexisting
    obtain ⟨hstored, hid⟩ := Table.find?_eq_some.mp hexisting
    split at h
    · rename_i hrepeats
      simp only [bind_eq_ok] at h
      obtain ⟨_, -, h⟩ := h
      cases h
      exact ⟨operation, existing, hlatest, hstored, hid, hrepeats⟩
    · cases h
  · simp only [bind_eq_ok] at h
    obtain ⟨snapshot, -, h⟩ := h
    split at h
    · cases h
    simp only [bind_eq_ok] at h
    obtain ⟨db₁, hinsert, _, -, h⟩ := h
    cases h
    obtain ⟨-, controlRequests, hrequests, rfl⟩ := insertControlRequest_ok hinsert
    exact ⟨operation, _, hlatest, (Table.mem_insert? hrequests).mpr (.inr rfl), rfl,
      repeats_self _⟩

theorem cancel_stored {input : RuntimeCancelRequestInput}
    (h : requestRuntimeCancel env input now db = .ok (some status, db')) :
    ∃ operation request,
      db.latestOperation input.decisionTaskId input.ownerUserId = some operation ∧
      request ∈ db'.controlRequests ∧ request.controlRequestId = input.controlRequestId ∧
      request.repeats (cancelRequest input operation now) = true := by
  unfold requestRuntimeCancel at h
  split at h
  · cases h
  rename_i operation hlatest
  simp only at h
  split at h
  · rename_i existing hexisting
    obtain ⟨hstored, hid⟩ := Table.find?_eq_some.mp hexisting
    split at h
    · rename_i hrepeats
      simp only [bind_eq_ok] at h
      obtain ⟨_, -, h⟩ := h
      cases h
      exact ⟨operation, existing, hlatest, hstored, hid, hrepeats⟩
    · cases h
  · split at h
    · cases h
    simp only [bind_eq_ok] at h
    obtain ⟨_, -, db₁, hinsert, db₂, hcontrol, db₃, hevent, _, -, h⟩ := h
    cases h
    obtain ⟨-, controlRequests, hrequests, rfl⟩ := insertControlRequest_ok hinsert
    obtain ⟨controlStates, rfl, -⟩ := cancelControlState_ok hcontrol
    have hmem : cancelRequest input operation now ∈ controlRequests :=
      (Table.mem_insert? hrequests).mpr (.inr rfl)
    refine ⟨operation, _, hlatest, ?_, rfl, repeats_self _⟩
    rw [(insertTaskEvent_appends hevent).controlRequests]
    exact hmem

/-- An accepted call has its request stored, for an operation of its owner. -/
theorem accepted_stored (hcall : action.controlCall? = some call)
    (h : step env db (now, action) = some (.controlStatus (some status), db')) :
    action.confirmed = true ∧ ∃ operation asked request,
      action.asksFor operation now = some asked ∧ request ∈ db'.controlRequests ∧
      request.controlRequestId = call.controlRequestId ∧ request.repeats asked = true ∧
      db'.operationOwner request.operationId = some call.ownerUserId := by
  have howner : ∀ {operation : Operation},
      db.latestOperation call.decisionTaskId call.ownerUserId = some operation →
      db'.operationOwner operation.operationId = some call.ownerUserId := by
    intro operation hlatest
    obtain ⟨hmem, -, hof⟩ := latestOperation_mem hlatest
    refine (step_change h).operationOwner_kept ?_ (commitsPurge_of_not_purged rfl _)
    exact operationOwner_eq_some.mpr ⟨operation, hmem, rfl, hof⟩
  rcases step_cases h with hperform | ⟨⟨error, herror⟩, -⟩
  swap
  · cases herror
  cases action with
  | requestRuntimeResume input =>
    cases hcall
    simp only [perform, bind_eq_ok] at hperform
    obtain ⟨⟨_, _⟩, hrequest, hperform⟩ := hperform
    cases hperform
    obtain ⟨hconfirmed, operation, request, hlatest, hstored, hid, hrepeats⟩ :=
      resume_stored hrequest
    refine ⟨hconfirmed, operation, _, request, rfl, hstored, hid, hrepeats, ?_⟩
    rw [(repeats_iff.mp hrepeats).1]
    exact howner hlatest
  | requestRuntimeCancel input =>
    cases hcall
    simp only [perform, bind_eq_ok] at hperform
    obtain ⟨⟨_, _⟩, hrequest, hperform⟩ := hperform
    cases hperform
    obtain ⟨operation, request, hlatest, hstored, hid, hrepeats⟩ := cancel_stored hrequest
    refine ⟨rfl, operation, _, request, rfl, hstored, hid, hrepeats, ?_⟩
    rw [(repeats_iff.mp hrepeats).1]
    exact howner hlatest
  | _ => cases hcall

/-- A call whose request is stored for the newest operation and its run returns the status. -/
theorem stored_repeated (hcall : action.controlCall? = some call)
    (hconfirmed : action.confirmed = true)
    (hexisting : db.controlRequests.find? call.controlRequestId = some existing)
    (hlatest : db.latestOperation call.decisionTaskId call.ownerUserId = some operation)
    (hasked : action.asksFor operation now = some asked)
    (hrepeats : existing.repeats asked = true)
    (hstatus : toRuntimeControlStatus existing = .ok status) :
    step env db (now, action) = some (.controlStatus (some status), db) := by
  cases action with
  | requestRuntimeResume input =>
    cases hcall
    cases hasked
    simp only [Action.confirmed, Bool.and_eq_true, decide_eq_true_eq] at hconfirmed
    have hresult : requestRuntimeResume input now db = .ok (some status, db) := by
      unfold requestRuntimeResume
      rw [if_neg (by simp [hconfirmed])]
      simp only [hlatest, hexisting, hrepeats, if_true, hstatus]
      rfl
    simp only [step, perform, hresult]
    rfl
  | requestRuntimeCancel input =>
    cases hcall
    cases hasked
    have hresult : requestRuntimeCancel env input now db = .ok (some status, db) := by
      unfold requestRuntimeCancel
      simp only [hlatest, hexisting, hrepeats, if_true, hstatus]
      rfl
    simp only [step, perform, hresult]
    rfl
  | _ => cases hcall

/-- A call of a known id that asks for something else changes nothing. -/
theorem stored_differs (hcall : action.controlCall? = some call)
    (hexisting : db.controlRequests.find? call.controlRequestId = some existing)
    (hdiffers : ∀ operation asked, action.asksFor operation now = some asked →
      existing.repeats asked = false) :
    step env db (now, action) = some (differingReply db action call, db) := by
  cases action with
  | requestRuntimeResume input =>
    cases hcall
    have hresult : requestRuntimeResume input now db =
        if !(Action.requestRuntimeResume input).confirmed then .error .runtimeResumeDenied
        else if (db.latestOperation input.decisionTaskId input.ownerUserId).isNone then
          .ok (none, db)
        else .error (.idempotencyConflict input.controlRequestId) := by
      unfold requestRuntimeResume
      refine if_congr (by simp [Action.confirmed]) rfl ?_
      cases hlatest : db.latestOperation input.decisionTaskId input.ownerUserId with
      | none => rfl
      | some operation =>
        simp only [hexisting, hdiffers operation _ rfl]
        rfl
    simp only [step, perform, hresult, differingReply]
    split_ifs <;> rfl
  | requestRuntimeCancel input =>
    cases hcall
    have hresult : requestRuntimeCancel env input now db =
        if (db.latestOperation input.decisionTaskId input.ownerUserId).isNone then
          .ok (none, db)
        else .error (.idempotencyConflict input.controlRequestId) := by
      unfold requestRuntimeCancel
      cases hlatest : db.latestOperation input.decisionTaskId input.ownerUserId with
      | none => rfl
      | some operation =>
        simp only [hexisting, hdiffers operation _ rfl]
        rfl
    simp only [step, perform, hresult, differingReply, Action.confirmed]
    split_ifs <;> first | rfl | contradiction
  | _ => cases hcall

/-- After a control call is accepted and until its owner is purged, the same call returns the
stored status as long as the operation and the run of the request are the task's newest, and
another call of the same id is refused; nothing changes. -/
theorem control_requests_idempotent {pre post : List (Entry Store (Instant × Action) Reply)}
    {e : Entry Store (Instant × Action) Reply}
    (h : Run (step env) Store.empty (pre ++ e :: post) db)
    (hnamed : Guarded (fun _ label => namesErrors label.2 = true) (pre ++ e :: post))
    (hcall : e.label.2.controlCall? = some call)
    (haccepted : ∃ status, e.reply = .controlStatus (some status))
    (hunpurged : ∀ f ∈ post, commitsPurge call.ownerUserId f.label f.reply = false) :
    ∃ request ∈ db.controlRequests, ∃ status,
      request.controlRequestId = call.controlRequestId ∧
      toRuntimeControlStatus request = .ok status ∧
      (∀ now operation,
        db.latestOperation call.decisionTaskId call.ownerUserId = some operation →
        operation.operationId = request.operationId →
        operation.agentRunId = request.agentRunId →
        step env db (now, e.label.2) = some (.controlStatus (some status), db)) ∧
      ∀ now other otherCall, other.controlCall? = some otherCall →
        otherCall.controlRequestId = call.controlRequestId → other ≠ e.label.2 →
        step env db (now, other) = some (differingReply db other otherCall, db) := by
  obtain ⟨accepted, haccept⟩ := haccepted
  obtain ⟨before, hpre, hrest⟩ := h.split
  cases hrest with
  | @cons _ after _ label reply _ hstep hpost =>
    obtain ⟨acceptedAt, action⟩ := label
    simp only at haccept hcall
    subst haccept
    obtain ⟨hconfirmed, found, asked, first, hasked, hfirst, hid, hrepeats, howner⟩ :=
      accepted_stored hcall hstep
    obtain ⟨request, hrequest, hsame⟩ := request_kept_along hpost hfirst howner hunpurged
    have hreadable := statusReadable_of_run h hnamed request hrequest
    have hcontent : request.content = asked.content :=
      hsame.content.trans (repeats_iff.mp hrepeats).2.2
    have hkey : request.controlRequestId = call.controlRequestId :=
      hsame.controlRequestId.trans hid
    have hfound : db.controlRequests.find? call.controlRequestId = some request :=
      Table.find?_eq_some.mpr ⟨hrequest, hkey⟩
    cases hstatus : toRuntimeControlStatus request with
    | error error =>
      rw [hstatus] at hreadable
      cases hreadable
    | ok status =>
      refine ⟨request, hrequest, status, hkey, hstatus, ?_, ?_⟩
      · intro now operation hlatest hoperation hrun
        obtain ⟨earlier, again, hearlier, hagain, hsameContent⟩ :=
          asksFor_some hcall found operation acceptedAt now
        rw [hasked] at hearlier
        cases hearlier
        obtain ⟨hagainOperation, hagainRun⟩ := asksFor_operation hagain
        refine stored_repeated hcall hconfirmed hfound hlatest hagain ?_ hstatus
        exact repeats_iff.mpr ⟨hoperation.symm.trans hagainOperation.symm,
          hrun.symm.trans hagainRun.symm, hcontent.trans hsameContent.symm⟩
      · intro now other otherCall hother hsameid hne
        rw [← hsameid] at hfound
        refine stored_differs hother hfound fun operation again hagain => ?_
        rw [Bool.eq_false_iff]
        intro hrepeated
        have hsameContent := (repeats_iff.mp hrepeated).2.2
        rw [hcontent] at hsameContent
        exact hne (eq_of_content hcall hother hsameid hasked hagain hsameContent.symm)

def sampleResume : RuntimeResumeRequestInput :=
  ⟨"control", "task", "owner", "snapshot", "correlation", ⟨"control", "owner"⟩⟩

/-- An accepted resume. -/
def resumeAccepted : List (Instant × Action) :=
  resumedSchedule.take 5 ++ [(5, .requestRuntimeResume sampleResume)]

/-- The task is submitted again after the resume was accepted. -/
def resumeOvertaken : List (Instant × Action) :=
  resumeAccepted ++ [(6, .submit (sampleCommand "second") "owner")]

/-- The resume fails and the operation is retried under a new run. -/
def resumeRetried : List (Instant × Action) :=
  resumeAccepted ++
    [(6, .claimNextRuntimeControl "worker-2" 10 []),
     (7, .complete sampleOperation "worker-2" (.failure ⟨.failedRetryable, "busy", none⟩)
       (some "control")),
     (8, .claimNext sampleOperation "worker-3" 10)]

/-- The owner is purged after the resume was accepted. -/
def resumePurged : List (Instant × Action) :=
  resumeAccepted ++ [(6, .purgePrivateDataForOwner "owner")]

/-- The step accepts the sample request. -/
def acceptsSample (e : Entry Store (Instant × Action) Reply) : Bool :=
  match e.label.2, e.reply with
  | .requestRuntimeResume input, .controlStatus (some _) => input = sampleResume
  | _, _ => false

theorem acceptsSample_eq {e : Entry Store (Instant × Action) Reply}
    (h : acceptsSample e = true) : e.label.2 = .requestRuntimeResume sampleResume ∧
      ∃ status, e.reply = .controlStatus (some status) := by
  unfold acceptsSample at h
  split at h
  · rename_i input status hlabel hreply
    obtain rfl : input = sampleResume := of_decide_eq_true h
    exact ⟨hlabel, status, hreply⟩
  · cases h

/-- The schedule accepts the sample request, and a later call gets a reply of the kind. -/
def repliesAfter (schedule : List (Instant × Action)) (later : Action) (reply : Reply → Bool) :
    Bool :=
  (exec (step sampleEnv) Store.empty schedule).any fun result =>
    clockAdvances result.1 &&
      result.1.any acceptsSample &&
      (step sampleEnv result.2 (9, later)).any fun stepped => reply stepped.1

def Reply.isConflict : Reply → Bool
  | .failed (.idempotencyConflict _) => true
  | _ => false

def Reply.isDenied : Reply → Bool
  | .failed .runtimeResumeDenied => true
  | _ => false

def Reply.isAbsent : Reply → Bool
  | .controlStatus none => true
  | _ => false

/-- The schedule accepts the sample request, and a later call gets a reply of the kind. -/
def AcceptedThenReplies (schedule : List (Instant × Action)) (later : Action)
    (reply : Reply → Bool) : Prop :=
  ∃ es db, exec (step sampleEnv) Store.empty schedule = some (es, db) ∧
    Run (step sampleEnv) Store.empty es db ∧ clockAdvances es = true ∧
    (∃ e ∈ es, e.label.2 = .requestRuntimeResume sampleResume ∧
      ∃ status, e.reply = .controlStatus (some status)) ∧
    ∃ answer db', step sampleEnv db (9, later) = some (answer, db') ∧ reply answer = true

theorem acceptedThenReplies_of_check {schedule : List (Instant × Action)} {later : Action}
    {reply : Reply → Bool} (h : repliesAfter schedule later reply = true) :
    AcceptedThenReplies schedule later reply := by
  rw [repliesAfter, Option.any_eq_true] at h
  obtain ⟨⟨es, db⟩, hexec, hcheck⟩ := h
  simp only [Bool.and_eq_true, List.any_eq_true, Option.any_eq_true] at hcheck
  obtain ⟨⟨hclock, e, he, haccepted⟩, ⟨answer, db'⟩, hstep, hreply⟩ := hcheck
  exact ⟨es, db, hexec, run_of_exec hexec, hclock, ⟨e, he, acceptsSample_eq haccepted⟩, answer,
    db', hstep, hreply⟩

set_option maxRecDepth 8000 in
/-- The same call conflicts after a new submission and after a retry and finds nothing after a
purge; a call with another task finds nothing, and one with another confirmation is denied. -/
theorem repeated_control_requests :
    AcceptedThenReplies resumeOvertaken (.requestRuntimeResume sampleResume)
        Reply.isConflict ∧
      AcceptedThenReplies resumeRetried (.requestRuntimeResume sampleResume)
        Reply.isConflict ∧
      AcceptedThenReplies resumePurged (.requestRuntimeResume sampleResume)
        Reply.isAbsent ∧
      AcceptedThenReplies resumeAccepted
        (.requestRuntimeResume { sampleResume with decisionTaskId := "other" })
        Reply.isAbsent ∧
      AcceptedThenReplies resumeAccepted
        (.requestRuntimeResume { sampleResume with egressConfirmation := ⟨"control", "other"⟩ })
        Reply.isDenied := by
  refine ⟨acceptedThenReplies_of_check ?_, acceptedThenReplies_of_check ?_,
    acceptedThenReplies_of_check ?_, acceptedThenReplies_of_check ?_,
    acceptedThenReplies_of_check ?_⟩
  all_goals decide +kernel

set_option maxRecDepth 8000 in
theorem control_requests_idempotent_failed :
    ∃ pre e post db, Run (step sampleEnv) Store.empty (pre ++ e :: post) db ∧
      post.length = 2 ∧ ∃ request ∈ db.controlRequests, ∃ status,
        toRuntimeControlStatus request = .ok status ∧ request.state = .failed ∧
        step sampleEnv db (9, .requestRuntimeResume sampleResume) =
          some (.controlStatus (some status), db) := by
  have hexec : (exec (step sampleEnv) Store.empty (resumeRetried.take 8)).any
      (cutAt 5 fun pre e post => decide (post.length = 2) &&
        ((pre ++ e :: post).all (fun f => namesErrors f.label.2) &&
          (acceptsSample e && (post.all (fun f => !f.reply.isPurged) &&
            post.getLast?.any fun f =>
              (f.after.controlRequests.find? "control").any fun request =>
                decide (request.state = .failed) &&
                  (f.after.latestOperation "task" "owner").any fun operation =>
                    decide (operation.operationId = request.operationId ∧
                      operation.agentRunId = request.agentRunId))))) = true := by
    decide +kernel
  obtain ⟨pre, e, post, db, hrun, hcheck⟩ := exists_cut_of_exec hexec
  simp only [Bool.and_eq_true, decide_eq_true_eq, List.all_eq_true, Option.any_eq_true,
    Bool.not_eq_true'] at hcheck
  obtain ⟨hlength, hnamed, haccepts, hunpurged, last, hlast, stored, hstored, hfailed,
    operation, hlatest, hoperation, hagentRun⟩ := hcheck
  obtain ⟨hlabel, haccepted⟩ := acceptsSample_eq haccepts
  have hend : last.after = db := by
    refine hrun.after_of_getLast? ?_
    rw [List.getLast?_append, List.getLast?_cons, hlast]
    rfl
  rw [hend] at hstored hlatest
  have hcall : e.label.2.controlCall? = some ⟨"control", "task", "owner"⟩ := by
    rw [hlabel]
    rfl
  obtain ⟨request, hrequest, status, hkey, hstatus, hrepeated, -⟩ :=
    control_requests_idempotent hrun hnamed hcall haccepted
      fun f hf => commitsPurge_of_not_purged (hunpurged f hf) _
  obtain ⟨hmem, hid⟩ := Table.find?_eq_some.mp hstored
  obtain rfl : request = stored := Table.eq_of_key_eq hrequest hmem (hkey.trans hid.symm)
  refine ⟨pre, e, post, db, hrun, hlength, request, hrequest, status, hstatus, hfailed, ?_⟩
  rw [← hlabel]
  exact hrepeated 9 operation hlatest hoperation hagentRun

end Replay

end ChoiceMind.TaskPersistence
