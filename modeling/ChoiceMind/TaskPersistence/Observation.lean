import ChoiceMind.Contracts.Acceptance
import ChoiceMind.TaskPersistence.Replays

/-!
# Observing a submitted task

`get` and a repeated `submit` build the public view of a task from the state column and the
payload of its operation. Every step leaves a payload that fits the state; `get` reads all
states from it, the repeated `submit` all but the completed one.
-/

namespace ChoiceMind.TaskPersistence

set_option autoImplicit false

open Contracts Transition

variable {env : Environment} {db db' : Store} {now : Instant} {action : Action} {reply : Reply}

section Snapshots

/-- The members of the union that a snapshot's `state` selects. -/
def DecisionTaskSnapshot.stateChecks (snapshot : DecisionTaskSnapshot) : List FieldCheck :=
  match snapshot.state with
  | .paused _ =>
    [⟨"terminal", snapshot.terminal = false⟩,
     ⟨"runtimeSnapshotId", snapshot.runtimeSnapshotId.any nonEmpty⟩]
  | .failedFinal | .cancelled =>
    [⟨"terminal", snapshot.terminal = true⟩, ⟨"", snapshot.runtimeSnapshotId.isNone⟩]
  | .completed => [⟨"state", false⟩]
  | _ => [⟨"terminal", snapshot.terminal = false⟩, ⟨"", snapshot.runtimeSnapshotId.isNone⟩]

def DecisionTaskSnapshot.fieldChecks (snapshot : DecisionTaskSnapshot) : List FieldCheck :=
  [⟨"executionRequestId", nonEmpty snapshot.executionRequestId⟩,
   ⟨"decisionTaskId", nonEmpty snapshot.decisionTaskId⟩,
   ⟨"agentRunId", nonEmpty snapshot.agentRunId⟩] ++ snapshot.stateChecks

def decodeDecisionTaskSnapshotV1 (snapshot : DecisionTaskSnapshot) :
    ContractDecodeResult DecisionTaskSnapshot :=
  if fieldChecksHold snapshot.fieldChecks then .ok snapshot
  else contractInvalid (invalidFields snapshot.fieldChecks)

/-- The contracts accept what `get` returns. -/
def TaskView.accepted : TaskView → Bool
  | .snapshot shown => (decodeDecisionTaskSnapshotV1 shown).isOk
  | .result shown => (decodeDecisionTaskResultV1 shown).isOk

/-- The ids of the row can be shown. -/
structure Operation.Named (row : Operation) : Prop where
  executionRequestId : nonEmpty row.executionRequestId = true
  decisionTaskId : nonEmpty row.decisionTaskId = true
  agentRunId : nonEmpty row.agentRunId = true

theorem snapshotId_of_paused {outcome : RuntimePausedOutcome}
    (h : decodeRuntimePausedOutcomeV1 outcome = .ok outcome) :
    nonEmpty outcome.snapshot.snapshotId = true := by
  unfold decodeRuntimePausedOutcomeV1 at h
  split at h
  · cases h
  rename_i hchecks
  rw [Bool.not_eq_true', Bool.not_eq_false] at hchecks
  simp only [RuntimePausedOutcome.fieldChecks, RuntimeSnapshot.fieldChecks,
    fieldChecksHold_append, fieldChecksHold_cons, fieldChecksHold_below, Bool.and_eq_true]
    at hchecks
  exact hchecks.1.1.1.2.1.1

/-- A snapshot that is built from a row with ids is accepted. -/
theorem accepted_of_toTaskSnapshot {row : Operation} {snapshot : DecisionTaskSnapshot}
    (hnamed : row.Named) (h : toTaskSnapshot row = .ok snapshot) :
    (decodeDecisionTaskSnapshotV1 snapshot).isOk = true := by
  have hchecks : fieldChecksHold snapshot.fieldChecks = true := by
    simp only [DecisionTaskSnapshot.fieldChecks, fieldChecksHold_append, fieldChecksHold_cons,
      fieldChecksHold_nil, Bool.and_true, Bool.and_eq_true]
    unfold toTaskSnapshot at h
    simp only at h
    split at h
    · rename_i reason hstate
      split at h
      · cases h
      rename_i paused hpaused
      split at h
      · cases h
      cases h
      have hsnapshot := snapshotId_of_paused (decodePausedPayload_eq_some hpaused).2
      refine ⟨⟨hnamed.executionRequestId, hnamed.decisionTaskId, hnamed.agentRunId⟩, ?_⟩
      simp [DecisionTaskSnapshot.stateChecks, hstate, hsnapshot]
    · cases h
    · rename_i hpaused hcompleted
      cases h
      refine ⟨⟨hnamed.executionRequestId, hnamed.decisionTaskId, hnamed.agentRunId⟩, ?_⟩
      unfold DecisionTaskSnapshot.stateChecks
      cases hstate : row.state with
      | paused reason => exact absurd hstate (hpaused reason)
      | completed => exact absurd hstate hcompleted
      | _ => rfl
  rw [decodeDecisionTaskSnapshotV1, if_pos hchecks]
  rfl

end Snapshots

section Recorded
variable {operationId : String}

/-- What the rows of submissions and operations have to do with each other. -/
structure Recorded (env : Environment) (db : Store) : Prop where
  fingerprint : ∀ submission ∈ db.submissions,
    submission.executionRequestId = submission.command.executionRequestId ∧
      submission.commandFingerprint = env.sha256 (env.canonicalize submission.command)
  submitted : ∀ row ∈ db.operations, ∃ submission ∈ db.submissions,
    submission.executionRequestId = row.executionRequestId ∧
      submission.decisionTaskId = row.decisionTaskId
  unique : ∀ row ∈ db.operations, ∀ other ∈ db.operations,
    row.executionRequestId = other.executionRequestId → row = other
  observable : ∀ row ∈ db.operations, row.observable = true

theorem recorded_empty : Recorded env Store.empty where
  fingerprint := by
    intro submission hmem
    cases hmem
  submitted := by
    intro row hrow
    cases hrow
  unique := by
    intro row hrow
    cases hrow
  observable := by
    intro row hrow
    cases hrow

theorem Recorded.of_same (h : Recorded env db) (hsubmissions : db'.submissions = db.submissions)
    (hops : db'.operations = db.operations) : Recorded env db' where
  fingerprint := hsubmissions ▸ h.fingerprint
  submitted := hsubmissions ▸ hops ▸ h.submitted
  unique := hops ▸ h.unique
  observable := hops ▸ h.observable

/-- An update that moves no operation and leaves the changed one readable. -/
theorem Recorded.update (h : Recorded env db) {f : Operation → Operation}
    {hf : ∀ row, (f row).operationId = row.operationId}
    (hsubmissions : db'.submissions = db.submissions)
    (hops : db'.operations = db.operations.update operationId f hf)
    (hsame : ∀ row, SameOperation row (f row))
    (hobservable : ∀ row ∈ db.operations, row.operationId = operationId →
      (f row).observable = true) : Recorded env db' := by
  have hold : ∀ row ∈ db'.operations, ∃ old ∈ db.operations, SameOperation old row ∧
      row.observable = true := by
    intro row hrow
    rw [hops] at hrow
    obtain ⟨old, hmem, rfl⟩ := Table.mem_update.mp hrow
    refine ⟨old, hmem, ?_⟩
    split
    · exact ⟨hsame old, hobservable old hmem ‹_›⟩
    · exact ⟨.refl old, h.observable old hmem⟩
  refine ⟨hsubmissions ▸ h.fingerprint, fun row hrow => ?_, fun row hrow other hother heq => ?_,
    fun row hrow => ?_⟩
  · obtain ⟨old, hmem, hkept, -⟩ := hold row hrow
    rw [hsubmissions, hkept.executionRequestId, hkept.decisionTaskId]
    exact h.submitted old hmem
  · obtain ⟨old, hmem, hkept, -⟩ := hold row hrow
    obtain ⟨old', hmem', hkept', -⟩ := hold other hother
    rw [hkept.executionRequestId, hkept'.executionRequestId] at heq
    obtain rfl := h.unique old hmem old' hmem' heq
    exact Table.eq_of_key_eq hrow hother (hkept.operationId.trans hkept'.operationId.symm)
  · obtain ⟨-, -, -, hreadable⟩ := hold row hrow
    exact hreadable

theorem Recorded.submit (h : Recorded env db) {command : ExecuteDecisionTaskCommand}
    {ownerUserId : String}
    (hops : db.operations.insert? (acceptedOperation env command now db) = some db'.operations)
    (hsubmissions : db.submissions.insert?
      ⟨command.executionRequestId, ownerUserId, env.sha256 (env.canonicalize command), command,
        now⟩ = some db'.submissions)
    (hfresh : ∀ row ∈ db.operations, row.executionRequestId ≠ command.executionRequestId) :
    Recorded env db' where
  fingerprint submission hmem := by
    rcases (Table.mem_insert? hsubmissions).mp hmem with hold | rfl
    · exact h.fingerprint submission hold
    · exact ⟨rfl, rfl⟩
  submitted row hrow := by
    rcases (Table.mem_insert? hops).mp hrow with hold | rfl
    · obtain ⟨submission, hmem, hkeys⟩ := h.submitted row hold
      exact ⟨submission, (Table.mem_insert? hsubmissions).mpr (.inl hmem), hkeys⟩
    · exact ⟨_, (Table.mem_insert? hsubmissions).mpr (.inr rfl), rfl, rfl⟩
  unique row hrow other hother heq := by
    rcases (Table.mem_insert? hops).mp hrow with hold | rfl
    · rcases (Table.mem_insert? hops).mp hother with hold' | rfl
      · exact h.unique row hold other hold' heq
      · exact absurd heq (hfresh row hold)
    · rcases (Table.mem_insert? hops).mp hother with hold' | rfl
      · exact absurd heq.symm (hfresh other hold')
      · rfl
  observable row hrow := by
    rcases (Table.mem_insert? hops).mp hrow with hold | rfl
    · exact h.observable row hold
    · exact observable_plain rfl nofun

theorem Recorded.change (h : Recorded env db) (hchange : Change env db now action reply db') :
    Recorded env db' := by
  cases hchange with
  | frame hsame hreply => exact h.of_same hsame.submissions hsame.operations
  | submitted hops hreqs hdrawn hruns hsubmissions hfresh =>
    exact h.submit hops hsubmissions hfresh
  | claimed hrow hclaimable hops hreqs hrun =>
    have hsubmissions : db'.submissions = db.submissions := by
      cases hrun with
      | current hstate hrun hdrawn hruns => exact hruns.submissions
      | retried hstate hrun hdrawn hruns hsubmissions => exact hsubmissions
    exact h.update hsubmissions hops (fun _ => ⟨rfl, rfl, rfl, rfl⟩)
      fun _ _ _ => observable_plain rfl nofun
  | controlRejected hrequest hclaimable hops hreqs hdrawn hruns =>
    exact h.of_same hruns.submissions hops
  | controlClaimed hrequest hclaimable hoperation hconsistent hops hreqs hclaim hrun hdrawn
      hruns =>
    exact h.update hruns.submissions hops (fun _ => ⟨rfl, rfl, rfl, rfl⟩)
      fun _ _ _ => observable_plain rfl nofun
  | completed hrow hdecoded hcompletable hsettle hcommitted hops hreqs hdrawn hruns hreadable =>
    obtain ⟨hmem, hkey⟩ := Table.find?_eq_some.mp hrow
    refine h.update hruns.submissions hops (fun row => ⟨hsettle.operationId row,
      hsettle.executionRequestId row, hsettle.decisionTaskId row, hsettle.createdAt row⟩) ?_
    intro row hin hsame
    rw [Table.eq_of_key_eq hin hmem (hsame.trans hkey.symm)]
    exact hreadable
  | resumeRequested hoperation hpaused hops hreqs hdrawn hruns =>
    exact h.of_same hruns.submissions hops
  | cancelled hoperation hops hreqs hdrawn hruns =>
    exact h.update hruns.submissions hops (fun _ => ⟨rfl, rfl, rfl, rfl⟩)
      fun _ _ _ => observable_plain rfl nofun
  | @purged purged result _ hops hreqs hruns hevents hdrawn hsubmissions =>
    have hold : ∀ row ∈ db'.operations, row ∈ db.operations := by
      intro row hrow
      rw [hops, Table.mem_deleteWhere] at hrow
      exact hrow.1
    refine ⟨fun submission hmem => ?_, fun row hrow => ?_, fun row hrow other hother =>
      h.unique row (hold row hrow) other (hold other hother),
      fun row hrow => h.observable row (hold row hrow)⟩
    · rw [hsubmissions, Table.mem_deleteWhere] at hmem
      exact h.fingerprint submission hmem.1
    · have hmember := hold row hrow
      obtain ⟨submission, hmem, hkey, htask⟩ := h.submitted row hmember
      refine ⟨submission, ?_, hkey, htask⟩
      rw [hops, Table.mem_deleteWhere, decide_eq_false_iff_not, mem_scope_operationIds,
        operationOwner_of_mem hmember] at hrow
      rw [hsubmissions, Table.mem_deleteWhere]
      exact ⟨hmem, decide_eq_false fun hof =>
        hrow.2 (ownerOf_eq_some.mpr ⟨submission, hmem, hof, hkey⟩)⟩

theorem recorded_of_run {es : List (Entry Store (Instant × Action) Reply)}
    (h : Run (step env) Store.empty es db) : Recorded env db :=
  h.invariant (G := fun _ _ => True) (fun hs _ hstep => hs.change (step_change hstep))
    (fun _ _ => trivial) recorded_empty

/-- The command of a submission passes the contract, which the route checks. -/
def submitsValid : Action → Bool
  | .submit command _ => (decodeExecuteDecisionTaskCommandV1 command).isOk
  | _ => true

def CommandsValid (db : Store) : Prop :=
  ∀ submission ∈ db.submissions,
    (decodeExecuteDecisionTaskCommandV1 submission.command).isOk = true

/-- A stored submission was stored before, or is the one that the step submits. -/
theorem Change.submission_origin (h : Change env db now action reply db')
    {submission : Submission} (hmem : submission ∈ db'.submissions) :
    submission ∈ db.submissions ∨ action = .submit submission.command submission.ownerUserId := by
  have hsame : db'.submissions = db.submissions → submission ∈ db.submissions := by
    intro heq
    rw [← heq]
    exact hmem
  cases h with
  | frame hframe hreply => exact .inl (hsame hframe.submissions)
  | submitted hops hreqs hdrawn hruns hsubmissions =>
    rcases (Table.mem_insert? hsubmissions).mp hmem with hold | rfl
    · exact .inl hold
    · exact .inr rfl
  | claimed hrow hclaimable hops hreqs hrun =>
    cases hrun with
    | current hstate hrun hdrawn hruns => exact .inl (hsame hruns.submissions)
    | retried hstate hrun hdrawn hruns hsubmissions => exact .inl (hsame hsubmissions)
  | controlRejected hrequest hclaimable hops hreqs hdrawn hruns =>
    exact .inl (hsame hruns.submissions)
  | controlClaimed hrequest hclaimable hoperation hconsistent hops hreqs hclaim hrun hdrawn
      hruns => exact .inl (hsame hruns.submissions)
  | completed hrow hdecoded hcompletable hsettle hcommitted hops hreqs hdrawn hruns =>
    exact .inl (hsame hruns.submissions)
  | resumeRequested hoperation hpaused hops hreqs hdrawn hruns =>
    exact .inl (hsame hruns.submissions)
  | cancelled hoperation hops hreqs hdrawn hruns => exact .inl (hsame hruns.submissions)
  | purged hops hreqs hruns hevents hdrawn hsubmissions =>
    rw [hsubmissions, Table.mem_deleteWhere] at hmem
    exact .inl hmem.1

theorem commandsValid_of_run {es : List (Entry Store (Instant × Action) Reply)}
    (h : Run (step env) Store.empty es db)
    (hvalid : Guarded (fun _ label => submitsValid label.2 = true) es) : CommandsValid db := by
  refine h.invariant (fun hs hguard hstep submission hmem => ?_) hvalid ?_
  · rcases (step_change hstep).submission_origin hmem with hold | haction
    · exact hs submission hold
    · simp only [submitsValid, haction] at hguard
      exact hguard
  · intro submission hmem
    cases hmem

end Recorded

section Observed
variable {row : Operation} {submission : Submission}

/-- What a submitter can see of an operation: `get`, and a repetition of the submission. -/
structure Observed (env : Environment) (db : Store) (row : Operation) (submission : Submission) :
    Prop where
  get : ∃ view, get row.decisionTaskId submission.ownerUserId db = .ok (some view) ∧
    view.accepted = true
  replay : ∀ now, ∃ snapshot,
    submit env submission.command submission.ownerUserId now db = .ok (snapshot, db) ∧
      (decodeDecisionTaskSnapshotV1 snapshot).isOk = true

theorem named_of_run {es : List (Entry Store (Instant × Action) Reply)}
    (h : Run (step env) Store.empty es db)
    (hvalid : Guarded (fun _ label => submitsValid label.2 = true) es)
    (hrow : row ∈ db.operations) : row.Named := by
  obtain ⟨submission, hmem, hkey, htask⟩ := (recorded_of_run h).submitted row hrow
  have hsame := ((recorded_of_run h).fingerprint submission hmem).1
  have hdecodes := commandsValid_of_run h hvalid submission hmem
  have hchecks : fieldChecksHold submission.command.fieldChecks = true := by
    unfold decodeExecuteDecisionTaskCommandV1 at hdecodes
    split at hdecodes
    · assumption
    · cases hdecodes
  obtain ⟨k, -, hrun⟩ := (runsKnown_of_run h).issued row hrow
  simp only [ExecuteDecisionTaskCommand.fieldChecks, RequirementRevision.fieldChecks,
    fieldChecksHold_cons, fieldChecksHold_below, fieldChecksHold_append, Bool.and_eq_true]
    at hchecks
  refine ⟨?_, ?_, ?_⟩
  · rw [← hkey, hsame]
    exact hchecks.1
  · rw [← htask]
    simp only [Submission.decisionTaskId]
    simp_all only
  · rw [hrun]
    refine decide_eq_true fun hempty => ?_
    have hlength := congrArg String.length hempty
    simp [String.length_append] at hlength

/-- `get` on a readable row with ids. -/
theorem get_accepted {decisionTaskId ownerUserId : String} (hnamed : row.Named)
    (hlatest : db.latestOperation decisionTaskId ownerUserId = some row)
    (hobservable : row.observable = true) :
    ∃ view, get decisionTaskId ownerUserId db = .ok (some view) ∧ view.accepted = true := by
  unfold get
  simp only [hlatest]
  unfold Operation.observable at hobservable
  split at hobservable
  · rename_i result hstate hpayload
    obtain ⟨persisted, hpersisted⟩ := isOk_iff.mp hobservable
    obtain ⟨rfl, hdecoded, -⟩ := decodePersistedResult_ok hpersisted
    refine ⟨.result persisted, ?_, ?_⟩
    · simp only [hstate, hpayload, hpersisted]
      rfl
    · simp only [TaskView.accepted, hdecoded]
      rfl
  · cases hobservable
  · rename_i hcompleted hresult
    obtain ⟨snapshot, hsnapshot⟩ := isOk_iff.mp hobservable
    refine ⟨.snapshot snapshot, ?_, accepted_of_toTaskSnapshot hnamed hsnapshot⟩
    split
    · rename_i hstate hpayload
      exact absurd hstate hcompleted
    · rename_i hstate hpayload
      exact absurd hstate hcompleted
    · rw [hsnapshot]
      rfl

/-- The latest operation exists where there is one. -/
theorem exists_latestOperation {ownerUserId : String} (hrow : row ∈ db.operations)
    (howner : db.ownerOf row = some ownerUserId) :
    ∃ latest, db.latestOperation row.decisionTaskId ownerUserId = some latest := by
  have hmem : row ∈ db.operationsOf row.decisionTaskId ownerUserId := by
    rw [Store.operationsOf, Table.mem_select]
    exact ⟨hrow, by simp [howner]⟩
  cases hlatest : db.latestOperation row.decisionTaskId ownerUserId with
  | none =>
    rw [Store.latestOperation, List.argmax_eq_none] at hlatest
    rw [hlatest] at hmem
    cases hmem
  | some latest => exact ⟨latest, rfl⟩

/-- A repeated submission returns the snapshot of the operation. -/
theorem submit_replayed (hrecorded : Recorded env db) (hrow : row ∈ db.operations)
    (hof : db.submissionOf row = some submission) :
    submit env submission.command submission.ownerUserId now db =
      (toTaskSnapshot row).map fun snapshot => (snapshot, db) := by
  obtain ⟨hmem, hkey⟩ := Table.find?_eq_some.mp hof
  obtain ⟨hid, hfingerprint⟩ := hrecorded.fingerprint submission hmem
  have hfound : db.submissions.find? submission.command.executionRequestId = some submission := by
    rw [← hid]
    exact Table.find?_of_mem hmem
  have hoperation : (db.operations.rows.find? fun other =>
      other.executionRequestId = submission.command.executionRequestId) = some row := by
    cases hfind : db.operations.rows.find? fun other =>
        other.executionRequestId = submission.command.executionRequestId with
    | none =>
      have hnone := List.find?_eq_none.mp hfind row hrow
      rw [← hid, hkey] at hnone
      simp at hnone
    | some other =>
      have hsame : other.executionRequestId = submission.command.executionRequestId := by
        simpa using List.find?_some hfind
      rw [hrecorded.unique other (List.mem_of_find?_eq_some hfind) row hrow
        (hsame.trans (hid.symm.trans hkey))]
  unfold submit
  simp only [hfound, hoperation, hfingerprint]
  rw [if_neg (by simp)]
  cases toTaskSnapshot row <;> rfl

theorem toTaskSnapshot_isOk_iff (hobservable : row.observable = true) :
    (toTaskSnapshot row).isOk = true ↔ row.state ≠ .completed := by
  unfold Operation.observable at hobservable
  constructor
  · rintro hshown hstate
    simp only [toTaskSnapshot, hstate] at hshown
    cases hshown
  · intro hstate
    split at hobservable
    · exact absurd ‹_› hstate
    · exact absurd ‹_› hstate
    · exact hobservable

/-- An operation can be observed through `get` and through a repeated submission exactly when
it is not completed. -/
theorem observed_iff {es : List (Entry Store (Instant × Action) Reply)}
    (h : Run (step env) Store.empty es db)
    (hvalid : Guarded (fun _ label => submitsValid label.2 = true) es)
    (hrow : row ∈ db.operations) :
    ∃ submission, db.submissionOf row = some submission ∧
      (Observed env db row submission ↔ row.state ≠ .completed) := by
  have hrecorded := recorded_of_run h
  obtain ⟨submission, hmem, hkey, -⟩ := hrecorded.submitted row hrow
  have hof : db.submissionOf row = some submission := Table.find?_eq_some.mpr ⟨hmem, hkey⟩
  have howner : db.ownerOf row = some submission.ownerUserId := by
    rw [Store.ownerOf, hof]
    rfl
  have hshown := toTaskSnapshot_isOk_iff (hrecorded.observable row hrow)
  refine ⟨submission, hof, ?_, fun hstate => ⟨?_, fun now => ?_⟩⟩
  · rintro hobserved hstate
    obtain ⟨snapshot, hreplay, -⟩ := hobserved.replay 0
    rw [submit_replayed hrecorded hrow hof] at hreplay
    refine hshown.mp ?_ hstate
    cases hsnapshot : toTaskSnapshot row with
    | error error =>
      rw [hsnapshot] at hreplay
      cases hreplay
    | ok snapshot => rfl
  · obtain ⟨latest, hlatest⟩ := exists_latestOperation hrow howner
    have hlatestMem := (latestOperation_mem hlatest).1
    exact get_accepted (named_of_run h hvalid hlatestMem) hlatest
      (hrecorded.observable latest hlatestMem)
  · obtain ⟨snapshot, hsnapshot⟩ := isOk_iff.mp (hshown.mpr hstate)
    refine ⟨snapshot, ?_, accepted_of_toTaskSnapshot (named_of_run h hvalid hrow) hsnapshot⟩
    rw [submit_replayed hrecorded hrow hof, hsnapshot]
    rfl

/-- A recommendation that a run produces. -/
def sampleSucceeded (agentRunId : String) : DecisionTaskResult :=
  let result := sampleRecommendation "a" "b\x00c"
  .succeeded { result with
    taskStatus := { result.taskStatus with agentRunId }
    runEvents := result.runEvents.map fun event => { event with agentRunId } }

def completedSchedule : List (Instant × Action) :=
  [(0, .submit (sampleCommand "request") "owner"),
   (1, .claimNext sampleOperation "worker-1" 10),
   (2, .complete sampleOperation "worker-1" (.result (sampleSucceeded sampleRun)) none)]

def isUnavailable {α : Type} : Except PersistenceError α → Bool
  | .error .persistenceUnavailable => true
  | _ => false

theorem isUnavailable_eq_true {α : Type} {reply : Except PersistenceError α}
    (h : isUnavailable reply = true) : reply = .error .persistenceUnavailable := by
  unfold isUnavailable at h
  split at h
  · rfl
  · cases h

set_option maxRecDepth 8000 in
/-- The submission of a completed operation cannot be repeated, although `get` shows it. -/
theorem completed_submission_not_replayed :
    ∃ es db, Run (step sampleEnv) Store.empty es db ∧ clockAdvances es = true ∧
      Guarded (fun _ label => submitsValid label.2 = true) es ∧
      ∃ row ∈ db.operations, row.state = .completed ∧ ∃ submission,
        db.submissionOf row = some submission ∧
        (get row.decisionTaskId submission.ownerUserId db).isOk = true ∧
        submit sampleEnv submission.command submission.ownerUserId 3 db =
          .error .persistenceUnavailable ∧
        ¬ Observed sampleEnv db row submission := by
  have hexec : (exec (step sampleEnv) Store.empty completedSchedule).any (fun result =>
      clockAdvances result.1 && ((result.1.all fun e => submitsValid e.label.2) &&
        result.2.operations.rows.any fun row =>
          decide (row.state = .completed) && ((result.2.submissionOf row).any fun submission =>
            (get row.decisionTaskId submission.ownerUserId result.2).isOk &&
              isUnavailable (submit sampleEnv submission.command submission.ownerUserId 3
                result.2)))) = true := by
    decide +kernel
  obtain ⟨es, db, hrun, hcheck⟩ := exists_run_of_exec hexec
  simp only [Bool.and_eq_true, List.any_eq_true, List.all_eq_true, decide_eq_true_eq,
    Option.any_eq_true] at hcheck
  obtain ⟨hclock, hvalid, row, hrow, hstate, submission, hof, hget, hsubmit⟩ := hcheck
  have hfails : submit sampleEnv submission.command submission.ownerUserId 3 db =
      .error .persistenceUnavailable := isUnavailable_eq_true hsubmit
  refine ⟨es, db, hrun, hclock, hvalid, row, hrow, hstate, submission, hof, hget, hfails, ?_⟩
  intro hobserved
  obtain ⟨snapshot, hreplay, -⟩ := hobserved.replay 3
  rw [hfails] at hreplay
  cases hreplay

set_option maxRecDepth 4000 in
theorem observed_iff_paused :
    ∃ es db, Run (step sampleEnv) Store.empty es db ∧
      ∃ row ∈ db.operations, row.state = .paused .user ∧
        ∃ submission, db.submissionOf row = some submission ∧
          (Observed sampleEnv db row submission ↔ row.state ≠ .completed) := by
  have hexec : (exec (step sampleEnv) Store.empty (resumedSchedule.take 5)).any (fun result =>
      (result.1.all fun e => submitsValid e.label.2) &&
        result.2.operations.rows.any fun row => decide (row.state = .paused .user)) = true := by
    decide +kernel
  obtain ⟨es, db, hrun, hcheck⟩ := exists_run_of_exec hexec
  simp only [Bool.and_eq_true, List.any_eq_true, List.all_eq_true, decide_eq_true_eq] at hcheck
  obtain ⟨hvalid, row, hrow, hstate⟩ := hcheck
  exact ⟨es, db, hrun, row, hrow, hstate, observed_iff hrun hvalid hrow⟩

end Observed

end ChoiceMind.TaskPersistence
