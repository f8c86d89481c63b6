import ChoiceMind.TaskPersistence.Erasure

/-!
# Who writes the recovery tables

Apart from a purge, a row of the recovery tables appears only by the call that writes it,
and recovery facts never disappear. Receipts are filed under a fact of their run, and
result objects are bound.
-/

namespace ChoiceMind.TaskPersistence

set_option autoImplicit false

open Contracts Transition

variable {env : Environment}

/-- The recovery tables and the egress records do not change. -/
structure SameRecovery (db db' : Store) : Prop where
  controlStates : db'.controlStates = db.controlStates
  snapshotObjects : db'.snapshotObjects = db.snapshotObjects
  recoveryFacts : db'.recoveryFacts = db.recoveryFacts
  effectReceipts : db'.effectReceipts = db.effectReceipts
  effectResultObjects : db'.effectResultObjects = db.effectResultObjects
  effectResultBindings : db'.effectResultBindings = db.effectResultBindings
  egressRecords : db'.egressRecords = db.egressRecords

theorem SameRecovery.refl (db : Store) : SameRecovery db db :=
  ⟨rfl, rfl, rfl, rfl, rfl, rfl, rfl⟩

theorem SameRecovery.of_appends {db db₁ db' : Store} {events : List RunEvent}
    (h : Appends db₁ events db') (hsame : SameRecovery db db₁) : SameRecovery db db' := by
  obtain ⟨_, _, _, _, rfl, -⟩ := h
  exact ⟨hsame.controlStates, hsame.snapshotObjects, hsame.recoveryFacts, hsame.effectReceipts,
    hsame.effectResultObjects, hsame.effectResultBindings, hsame.egressRecords⟩

/-- The runs that an action may give a control state. -/
def Action.controlledRun (db : Store) : Action → List String
  | .recordRuntimeRunning agentRunId _ _ => [agentRunId]
  | .saveRecoveryFacts snapshot _ => [snapshot.agentRunId]
  | .requestRuntimeCancel input =>
    (db.latestOperation input.decisionTaskId input.ownerUserId).toList.map Operation.agentRunId
  | _ => []

/-- What a step other than a purge does to the control rows. -/
inductive ControlRows (db : Store) : Action → Table ControlState.agentRunId → Prop where
  | advanced {action : Action} {states : Table ControlState.agentRunId}
      (hrows : RowsAdvance db.controlStates states) : ControlRows db action states
  | cancelled {input : RuntimeCancelRequestInput} {operation : Operation}
      {states : Table ControlState.agentRunId}
      (hlatest : db.latestOperation input.decisionTaskId input.ownerUserId = some operation)
      (hopen : operation.state.isFinal = false)
      (hnew : db.controlRequests.find? input.controlRequestId = none)
      (hcancels : CancelsRow db.controlStates states operation.agentRunId) :
      ControlRows db (.requestRuntimeCancel input) states

/-- Where the rows come from that a step leaves in the recovery tables. -/
structure RecoveryRows (env : Environment) (db : Store) (action : Action) (db' : Store) :
    Prop where
  controlStates : db.controlStates.KeysWithin db'.controlStates (action.controlledRun db)
  controlRows : ControlRows db action db'.controlStates
  snapshotObjects : ∀ object ∈ db'.snapshotObjects, object ∈ db.snapshotObjects ∨
    object.digest = env.sha256 object.payload ∧ action = .putRawSnapshot object.payload
  recoveryFacts : ∀ fact ∈ db'.recoveryFacts, fact ∈ db.recoveryFacts ∨
    ∃ receipts, action = .saveRecoveryFacts fact.snapshot receipts
  factsKept : ∀ fact ∈ db.recoveryFacts, fact ∈ db'.recoveryFacts
  effectReceipts : ∀ row ∈ db'.effectReceipts, row ∈ db.effectReceipts ∨
    ∃ receipts, ∃ fact ∈ db'.recoveryFacts,
      action = .saveRecoveryFacts fact.snapshot receipts ∧ row.snapshotId = fact.snapshotId ∧
        row.receipt.agentRunId = fact.agentRunId
  effectResultBindings : ∀ row ∈ db'.effectResultBindings, row ∈ db.effectResultBindings ∨
    ∃ payload, action = .putEffectResult row.identity payload
  bindingsKept : ∀ row ∈ db.effectResultBindings, row ∈ db'.effectResultBindings
  effectResultObjects : ∀ object ∈ db'.effectResultObjects, object ∈ db.effectResultObjects ∨
    ∃ binding ∈ db'.effectResultBindings, binding.digest = object.digest
  egressRecords : ∀ row ∈ db'.egressRecords, row ∈ db.egressRecords ∨
    action = .appendEgressRecord row

section Steps
variable {db db' : Store} {now : Instant} {action : Action} {reply : Reply}

/-- A step that writes control states only. -/
theorem RecoveryRows.of_control
    (hkeys : db.controlStates.KeysWithin db'.controlStates (action.controlledRun db))
    (hrows : ControlRows db action db'.controlStates)
    (hsame : SameRecovery { db with controlStates := db'.controlStates } db') :
    RecoveryRows env db action db' where
  controlStates := hkeys
  controlRows := hrows
  snapshotObjects := by
    rw [hsame.snapshotObjects]
    exact fun object hobject => .inl hobject
  recoveryFacts := by
    rw [hsame.recoveryFacts]
    exact fun fact hfact => .inl hfact
  factsKept := by
    rw [hsame.recoveryFacts]
    exact fun fact hfact => hfact
  effectReceipts := by
    rw [hsame.effectReceipts]
    exact fun row hrow => .inl hrow
  effectResultBindings := by
    rw [hsame.effectResultBindings]
    exact fun row hrow => .inl hrow
  bindingsKept := by
    rw [hsame.effectResultBindings]
    exact fun row hrow => hrow
  effectResultObjects := by
    rw [hsame.effectResultObjects]
    exact fun object hobject => .inl hobject
  egressRecords := by
    rw [hsame.egressRecords]
    exact fun row hrow => .inl hrow

theorem RecoveryRows.of_same (hsame : SameRecovery db db') : RecoveryRows env db action db' := by
  refine .of_control ?_ (.advanced ?_) ⟨rfl, hsame.snapshotObjects, hsame.recoveryFacts,
    hsame.effectReceipts, hsame.effectResultObjects, hsame.effectResultBindings,
    hsame.egressRecords⟩
  · rw [hsame.controlStates]
    exact .refl _ _
  · rw [hsame.controlStates]
    exact .refl _

theorem submit_same {command : ExecuteDecisionTaskCommand} {ownerUserId : String}
    {snapshot : DecisionTaskSnapshot}
    (h : submit env command ownerUserId now db = .ok (snapshot, db')) : SameRecovery db db' := by
  rcases submit_ok h with rfl | hinsert
  · exact .refl _
  · obtain ⟨_, _, _, _, -, -, -, -, happends, -⟩ := insertSubmission_ok hinsert
    exact .of_appends happends ⟨rfl, rfl, rfl, rfl, rfl, rfl, rfl⟩

theorem claimNext_same {operationId workerId : String} {leaseDurationMs : Nat}
    {result : DecisionTaskClaimResult}
    (h : claimNext env operationId workerId leaseDurationMs now db = .ok (result, db')) :
    SameRecovery db db' := by
  rcases claimNext_ok h with ⟨-, rfl⟩ | ⟨row, claim, db₁, -, -, -, -, hrun, -, hrecord⟩
  · exact .refl _
  have hopened : SameRecovery db db₁ := by
    rcases claimAgentRun_ok hrun with ⟨-, -, rfl⟩ | ⟨-, -, agentRuns, -, hretry, -⟩
    · exact .refl _
    · exact .of_appends hretry ⟨rfl, rfl, rfl, rfl, rfl, rfl, rfl⟩
  refine .of_appends (recordRunning_ok hrecord) ?_
  exact ⟨hopened.controlStates, hopened.snapshotObjects, hopened.recoveryFacts,
    hopened.effectReceipts, hopened.effectResultObjects, hopened.effectResultBindings,
    hopened.egressRecords⟩

theorem claimNextRuntimeControl_same {workerId : String} {leaseDurationMs : Nat}
    {skipped : List String} {result : RuntimeControlClaimResult}
    (h : claimNextRuntimeControl env workerId leaseDurationMs skipped now db =
      .ok (result, db')) : SameRecovery db db' := by
  rcases claimNextRuntimeControl_ok h with ⟨-, rfl⟩ | ⟨row, -, hclaimed⟩
  · exact .refl _
  cases hclaimed with
  | rejected code message => exact ⟨rfl, rfl, rfl, rfl, rfl, rfl, rfl⟩
  | manual hconsistent hfacts hdecision happends =>
    exact .of_appends happends ⟨rfl, rfl, rfl, rfl, rfl, rfl, rfl⟩
  | leased hconsistent hfacts hdecision hid hrun happends =>
    exact .of_appends happends ⟨rfl, rfl, rfl, rfl, rfl, rfl, rfl⟩

theorem complete_same {operationId workerId : String} {outcome : PersistentOutcome}
    {controlRequestId : Option String} {completion : DecisionTaskCompletion}
    (h : complete env operationId workerId outcome controlRequestId now db =
      .ok (completion, db')) : SameRecovery db db' := by
  rcases complete_ok h with ⟨-, rfl⟩ | ⟨-, row, decoded, db₁, -, -, -, hpersist, -, rfl⟩
  · exact .refl _
  obtain ⟨-, rewrite, -, db₂, happends, rfl⟩ := persistOutcome_ok hpersist
  have hsame : SameRecovery db db₂ := .of_appends happends ⟨rfl, rfl, rfl, rfl, rfl, rfl, rfl⟩
  exact ⟨hsame.controlStates, hsame.snapshotObjects, hsame.recoveryFacts, hsame.effectReceipts,
    hsame.effectResultObjects, hsame.effectResultBindings, hsame.egressRecords⟩

theorem requestRuntimeResume_same {input : RuntimeResumeRequestInput}
    {status : Option RuntimeControlStatus}
    (h : requestRuntimeResume input now db = .ok (status, db')) : SameRecovery db db' := by
  rcases requestRuntimeResume_ok h with rfl | ⟨operation, -, -, hinsert⟩
  · exact .refl _
  · obtain ⟨-, _, -, rfl⟩ := insertControlRequest_ok hinsert
    exact ⟨rfl, rfl, rfl, rfl, rfl, rfl, rfl⟩

theorem requestRuntimeCancel_rows {input : RuntimeCancelRequestInput}
    {status : Option RuntimeControlStatus}
    (h : requestRuntimeCancel env input now db = .ok (status, db')) :
    RecoveryRows env db (.requestRuntimeCancel input) db' := by
  rcases requestRuntimeCancel_ok h with rfl |
    ⟨operation, controlRequests, controlStates, hlatest, hopen, hrequests, hcancels, happends⟩
  · exact .of_same (.refl _)
  have hsame : SameRecovery { db with controlStates } db' :=
    .of_appends happends ⟨rfl, rfl, rfl, rfl, rfl, rfl, rfl⟩
  refine .of_control ?_ ?_ ⟨rfl, hsame.snapshotObjects, hsame.recoveryFacts,
    hsame.effectReceipts, hsame.effectResultObjects, hsame.effectResultBindings,
    hsame.egressRecords⟩
  · rw [hsame.controlStates, Action.controlledRun, hlatest]
    exact hcancels.elsewhere.keysWithin
  · rw [hsame.controlStates]
    exact .cancelled hlatest hopen
      (Table.find?_eq_none.mpr (Table.key_fresh_of_insert? hrequests)) hcancels

theorem putRawSnapshot_rows {payload : String} {reference : RawRuntimeSnapshotRef}
    (h : putRawSnapshot env payload now db = .ok (reference, db')) :
    RecoveryRows env db (.putRawSnapshot payload) db' := by
  obtain ⟨snapshotObjects, hput, rfl⟩ := putRawSnapshot_ok h
  have hkept : RecoveryRows env db (.putRawSnapshot payload) db := .of_same (.refl _)
  refine { hkept with snapshotObjects := fun object hobject => ?_ }
  rcases putContent_ok hput with rfl | hinsert
  · exact .inl hobject
  · rcases (Table.mem_insert? hinsert).mp hobject with hold | rfl
    · exact .inl hold
    · exact .inr ⟨rfl, rfl⟩

theorem putEffectResult_rows {identity : EffectResultIdentity} {payload : String}
    {reference : EffectResultRef}
    (h : putEffectResult env identity payload now db = .ok (reference, db')) :
    RecoveryRows env db (.putEffectResult identity payload) db' := by
  obtain ⟨objects, bindings, hput, hbind, rfl⟩ := putEffectResult_ok h
  have hkept : RecoveryRows env db (.putEffectResult identity payload) db :=
    .of_same (.refl _)
  have hbound : (∀ row ∈ bindings, row ∈ db.effectResultBindings ∨ row.identity = identity) ∧
      (∀ row ∈ db.effectResultBindings, row ∈ bindings) ∧
      ∃ row ∈ bindings, row.digest = env.sha256 payload := by
    rcases bindEffectResult_ok hbind with ⟨rfl, stored, hstored, hdigest⟩ | hinsert
    · exact ⟨fun row hrow => .inl hrow, fun row hrow => hrow, stored, hstored, hdigest⟩
    · refine ⟨fun row hrow => ?_, fun row hrow => (Table.mem_insert? hinsert).mpr (.inl hrow),
        _, (Table.mem_insert? hinsert).mpr (.inr rfl), rfl⟩
      rcases (Table.mem_insert? hinsert).mp hrow with hold | rfl
      · exact .inl hold
      · exact .inr rfl
  refine { hkept with
    effectResultBindings := fun row hrow => ?_
    bindingsKept := hbound.2.1
    effectResultObjects := fun object hobject => ?_ }
  · rcases hbound.1 row hrow with hold | rfl
    · exact .inl hold
    · exact .inr ⟨payload, rfl⟩
  · rcases putContent_ok hput with rfl | hinsert
    · exact .inl hobject
    · rcases (Table.mem_insert? hinsert).mp hobject with hold | rfl
      · exact .inl hold
      · exact .inr hbound.2.2

theorem saveRecoveryFacts_rows {snapshot : RuntimeSnapshot} {receipts : List EffectReceipt}
    (h : saveRecoveryFacts env snapshot receipts now db = .ok db') :
    RecoveryRows env db (.saveRecoveryFacts snapshot receipts) db' := by
  obtain ⟨hbelongs, -, facts, rows, controlStates, rfl, hfacts, hrows, hkeys, hadvance⟩ :=
    saveRecoveryFacts_ok h
  have hkept : RecoveryRows env db (.saveRecoveryFacts snapshot receipts) db :=
    .of_same (.refl _)
  have hstored : (∀ fact ∈ facts, fact ∈ db.recoveryFacts ∨ fact.snapshot = snapshot) ∧
      (∀ fact ∈ db.recoveryFacts, fact ∈ facts) ∧ ∃ fact ∈ facts, fact.snapshot = snapshot := by
    rcases hfacts with ⟨rfl, hexists⟩ | hinsert
    · exact ⟨fun fact hfact => .inl hfact, fun fact hfact => hfact, hexists⟩
    · refine ⟨fun fact hfact => ?_, fun fact hfact => (Table.mem_insert? hinsert).mpr (.inl hfact),
        _, (Table.mem_insert? hinsert).mpr (.inr rfl), rfl⟩
      rcases (Table.mem_insert? hinsert).mp hfact with hold | rfl
      · exact .inl hold
      · exact .inr rfl
  obtain ⟨hwritten, hold, fact, hfact, rfl⟩ := hstored
  refine { hkept with
    controlStates := hkeys
    controlRows := .advanced hadvance
    recoveryFacts := fun other hother => ?_
    factsKept := hold
    effectReceipts := fun row hrow => ?_ }
  · rcases hwritten other hother with hold | hsame
    · exact .inl hold
    · exact .inr ⟨receipts, hsame ▸ rfl⟩
  · rcases hrows row hrow with hold | ⟨hid, hreceipt⟩
    · exact .inl hold
    · refine .inr ⟨receipts, fact, hfact, rfl, hid, ?_⟩
      have hrun := hbelongs _ hreceipt
      simp only [EffectReceipt.belongsTo, Bool.and_eq_true, decide_eq_true_eq] at hrun
      exact hrun.1.2

/-- A step other than a purge leaves old rows and rows that it writes. -/
theorem perform_rows (h : perform env now db action = .ok (reply, db')) :
    RecoveryRows env db action db' ∨
      ∃ ownerUserId, action = .purgePrivateDataForOwner ownerUserId ∧
        db' = db.erased env ownerUserId := by
  cases action with
  | purgePrivateDataForOwner ownerUserId =>
    simp only [perform, bind_eq_ok] at h
    obtain ⟨⟨result, _⟩, hpurge, h⟩ := h
    cases h
    exact .inr ⟨ownerUserId, rfl, purgePrivateDataForOwner_ok hpurge⟩
  | publishNext retryDelayMs republishDelayMs delivered skipped =>
    simp only [perform] at h
    cases h
    obtain ⟨outbox, hframe, -⟩ :=
      publishNext_frame env retryDelayMs republishDelayMs delivered skipped now db
    refine .inl (.of_same ?_)
    rw [hframe]
    exact ⟨rfl, rfl, rfl, rfl, rfl, rfl, rfl⟩
  | deleteEncryptedCredential key =>
    cases h
    exact .inl (.of_same ⟨rfl, rfl, rfl, rfl, rfl, rfl, rfl⟩)
  | saveEvidence row =>
    cases h
    obtain ⟨evidenceIndex, hframe, -⟩ := saveEvidence_eq row db
    refine .inl (.of_same ?_)
    rw [hframe]
    exact ⟨rfl, rfl, rfl, rfl, rfl, rfl, rfl⟩
  | skipCursors count =>
    cases h
    exact .inl (.of_same ⟨rfl, rfl, rfl, rfl, rfl, rfl, rfl⟩)
  | submit command ownerUserId =>
    simp only [perform, bind_eq_ok] at h
    obtain ⟨⟨snapshot, _⟩, hsubmit, h⟩ := h
    cases h
    exact .inl (.of_same (submit_same hsubmit))
  | claimNext operationId workerId leaseDurationMs =>
    simp only [perform, bind_eq_ok] at h
    obtain ⟨⟨result, _⟩, hclaim, h⟩ := h
    cases h
    exact .inl (.of_same (claimNext_same hclaim))
  | claimNextRuntimeControl workerId leaseDurationMs skipped =>
    simp only [perform, bind_eq_ok] at h
    obtain ⟨⟨result, _⟩, hclaim, h⟩ := h
    cases h
    exact .inl (.of_same (claimNextRuntimeControl_same hclaim))
  | complete operationId workerId outcome controlRequestId =>
    simp only [perform, bind_eq_ok] at h
    obtain ⟨⟨completion, _⟩, hcomplete, h⟩ := h
    cases h
    exact .inl (.of_same (complete_same hcomplete))
  | requestRuntimeResume input =>
    simp only [perform, bind_eq_ok] at h
    obtain ⟨⟨status, _⟩, hrequest, h⟩ := h
    cases h
    exact .inl (.of_same (requestRuntimeResume_same hrequest))
  | requestRuntimeCancel input =>
    simp only [perform, bind_eq_ok] at h
    obtain ⟨⟨status, _⟩, hrequest, h⟩ := h
    cases h
    exact .inl (requestRuntimeCancel_rows hrequest)
  | putRawSnapshot payload =>
    simp only [perform, bind_eq_ok] at h
    obtain ⟨⟨reference, _⟩, hput, h⟩ := h
    cases h
    exact .inl (putRawSnapshot_rows hput)
  | putEffectResult identity payload =>
    simp only [perform, bind_eq_ok] at h
    obtain ⟨⟨reference, _⟩, hput, h⟩ := h
    cases h
    exact .inl (putEffectResult_rows hput)
  | saveRecoveryFacts snapshot effectReceipts =>
    simp only [perform, bind_eq_ok] at h
    obtain ⟨_, hsave, h⟩ := h
    cases h
    exact .inl (saveRecoveryFacts_rows hsave)
  | recordRuntimeRunning agentRunId controllerId leaseDurationMs =>
    simp only [perform, bind_eq_ok] at h
    obtain ⟨_, hrecord, h⟩ := h
    cases h
    obtain ⟨_, rfl, hkeys, hadvance⟩ := recordRuntimeRunning_ok hrecord
    exact .inl (.of_control hkeys (.advanced hadvance) (.refl _))
  | claimRuntimeResume agentRunId snapshotId controllerId leaseDurationMs =>
    simp only [perform, bind_eq_ok] at h
    obtain ⟨⟨claim, _⟩, hclaim, h⟩ := h
    cases h
    obtain ⟨_, rfl, hkeys, hadvance⟩ := claimRuntimeResume_ok hclaim
    exact .inl (.of_control hkeys (.advanced hadvance) (.refl _))
  | completeRuntimeControl agentRunId controllerId expected next state runEvents =>
    simp only [perform, bind_eq_ok] at h
    obtain ⟨_, hcomplete, h⟩ := h
    cases h
    obtain ⟨_, rfl, hkeys, hadvance⟩ := completeRuntimeControl_ok hcomplete
    exact .inl (.of_control hkeys (.advanced hadvance) (.refl _))
  | claimRuntimeCancel agentRunId cancellationId runEvents =>
    simp only [perform, bind_eq_ok] at h
    obtain ⟨⟨claim, _⟩, hclaim, h⟩ := h
    cases h
    obtain ⟨_, rfl, hkeys, hadvance⟩ := claimRuntimeCancel_ok hclaim
    exact .inl (.of_control hkeys (.advanced hadvance) (.refl _))
  | appendEgressRecord record =>
    simp only [perform, bind_eq_ok] at h
    obtain ⟨_, happend, h⟩ := h
    cases h
    obtain ⟨egressRecords, hinsert, rfl⟩ := appendEgressRecord_ok happend
    have hkept : RecoveryRows env db (.appendEgressRecord record) db := .of_same (.refl _)
    refine .inl { hkept with egressRecords := fun row hrow => ?_ }
    rcases (Table.mem_insert? hinsert).mp hrow with hold | rfl
    · exact .inl hold
    · exact .inr rfl
  | appendAuditRecord record =>
    simp only [perform, bind_eq_ok] at h
    obtain ⟨_, happend, h⟩ := h
    cases h
    obtain ⟨_, -, rfl⟩ := appendAuditRecord_ok happend
    exact .inl (.of_same ⟨rfl, rfl, rfl, rfl, rfl, rfl, rfl⟩)
  | saveEncryptedCredential key envelope =>
    simp only [perform, bind_eq_ok] at h
    obtain ⟨_, hsave, h⟩ := h
    cases h
    obtain ⟨_, rfl, -⟩ := saveEncryptedCredential_ok hsave
    exact .inl (.of_same ⟨rfl, rfl, rfl, rfl, rfl, rfl, rfl⟩)

theorem step_rows (h : step env db (now, action) = some (reply, db')) :
    RecoveryRows env db action db' ∨
      ∃ ownerUserId, action = .purgePrivateDataForOwner ownerUserId ∧
        db' = db.erased env ownerUserId := by
  rcases step_cases h with hperform | ⟨-, rfl⟩
  · exact perform_rows hperform
  · exact .inl (.of_same (.refl _))

end Steps

section Filing
variable {db db' : Store} {ownerUserId : String}

/-- Receipts have a fact of their run, and result objects a binding. -/
structure Filed (db : Store) : Prop where
  receipts : ∀ row ∈ db.effectReceipts, ∃ fact ∈ db.recoveryFacts,
    fact.snapshotId = row.snapshotId ∧ row.receipt.agentRunId = fact.agentRunId
  results : ∀ object ∈ db.effectResultObjects, ∃ binding ∈ db.effectResultBindings,
    binding.digest = object.digest

theorem filed_empty : Filed Store.empty where
  receipts := by
    intro row hrow
    cases hrow
  results := by
    intro object hobject
    cases hobject

theorem Filed.rows (h : Filed db) {action : Action} (hrows : RecoveryRows env db action db') :
    Filed db' where
  receipts row hrow := by
    rcases hrows.effectReceipts row hrow with hold | ⟨-, fact, hfact, -, hid, hrun⟩
    · obtain ⟨fact, hfact, hid, hrun⟩ := h.receipts row hold
      exact ⟨fact, hrows.factsKept fact hfact, hid, hrun⟩
    · exact ⟨fact, hfact, hid.symm, hrun⟩
  results object hobject := by
    rcases hrows.effectResultObjects object hobject with hold | hbound
    · obtain ⟨binding, hbinding, hdigest⟩ := h.results object hold
      exact ⟨binding, hrows.bindingsKept binding hbinding, hdigest⟩
    · exact hbound

/-- A purge keeps an object of its scope only while a row refers to it. -/
theorem referenced_of_mem {ρ : Type} {objects : Table ContentObject.digest}
    {digests : List String} {children : List ρ} {digest : ρ → String} {object : ContentObject}
    (h : object ∈ objects.deleteWhere fun row =>
      row.digest ∈ digests && !children.any fun child => digest child = row.digest)
    (hin : object.digest ∈ digests) : ∃ child ∈ children, digest child = object.digest := by
  by_contra hnone
  have hobject := (Table.mem_deleteWhere.mp h).1
  refine (mem_deleteUnreferenced_iff hobject hin).mpr ?_ h
  exact fun child hchild hdigest => hnone ⟨child, hchild, hdigest⟩

/-- A fact that a purge deletes is one of its scope. -/
theorem fact_kept_or_scoped {fact : RecoveryFact} (hfact : fact ∈ db.recoveryFacts) :
    fact ∈ (db.erased env ownerUserId).recoveryFacts ∨
      fact.snapshotId ∈ (db.purgeScope ownerUserId).snapshotIds ∧
        fact.rawSnapshotDigest ∈ (db.purgeScope ownerUserId).snapshotDigests := by
  by_cases hin : fact.snapshotId ∈ (db.purgeScope ownerUserId).snapshotIds
  · obtain ⟨other, hother, hrun, hid⟩ := mem_scope_snapshotIds.mp hin
    obtain rfl := Table.eq_of_key_eq hother hfact hid
    exact .inr ⟨hin, mem_scope_snapshotDigests.mpr ⟨other, hfact, hrun, rfl⟩⟩
  · exact .inl (Table.mem_deleteWhere.mpr ⟨hfact, decide_eq_false hin⟩)

theorem binding_kept_or_scoped {binding : EffectResultBinding}
    (hbinding : binding ∈ db.effectResultBindings) :
    binding ∈ (db.erased env ownerUserId).effectResultBindings ∨
      binding.digest ∈ (db.purgeScope ownerUserId).effectResultDigests := by
  by_cases hin : binding.identity.agentRunId ∈ (db.purgeScope ownerUserId).agentRunIds
  · exact .inr (mem_scope_effectResultDigests.mpr ⟨binding, hbinding, hin, rfl⟩)
  · exact .inl (Table.mem_deleteWhere.mpr ⟨hbinding, decide_eq_false hin⟩)

theorem Filed.erased (h : Filed db) : Filed (db.erased env ownerUserId) where
  receipts row hrow := by
    have hkept : row ∈ db.effectReceipts ∧ _ := Table.mem_deleteWhere.mp hrow
    rw [decide_eq_false_iff_not] at hkept
    obtain ⟨fact, hfact, hid, hrun⟩ := h.receipts row hkept.1
    rcases fact_kept_or_scoped hfact with hstays | ⟨hin, -⟩
    · exact ⟨fact, hstays, hid, hrun⟩
    · exact absurd (hid ▸ hin) hkept.2
  results object hobject := by
    have hold : object ∈ db.effectResultObjects := (Table.mem_deleteWhere.mp hobject).1
    obtain ⟨binding, hbinding, hdigest⟩ := h.results object hold
    rcases binding_kept_or_scoped hbinding with hstays | hin
    · exact ⟨binding, hstays, hdigest⟩
    · exact referenced_of_mem hobject (hdigest ▸ hin)

theorem filed_of_run {es : List (Entry Store (Instant × Action) Reply)}
    (h : Run (step env) Store.empty es db) : Filed db := by
  refine h.invariant (G := fun _ _ => True) ?_ (fun _ _ => trivial) filed_empty
  intro s t a r hs _ hstep
  rcases step_rows hstep with hrows | ⟨ownerUserId, -, rfl⟩
  · exact hs.rows hrows
  · exact hs.erased

end Filing

end ChoiceMind.TaskPersistence
