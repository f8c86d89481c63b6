import ChoiceMind.TaskPersistence.Contents

/-!
# Facts that are kept

Saved facts are loaded with the same receipts until their run is purged, as long as no later
save brings other receipts for their snapshot.
-/

namespace ChoiceMind.TaskPersistence

set_option autoImplicit false

open Contracts Transition

variable {env : Environment} {db db' : Store} {now : Instant} {snapshot : RuntimeSnapshot}
  {receipts : List EffectReceipt}

/-! ### The rows of the receipts -/

/-- What an action does to the rows of the receipts. -/
inductive ReceiptMove (env : Environment) (now : Instant) (db : Store) : Action → Store → Prop
  | quiet {action : Action} {db' : Store} (hsame : db'.effectReceipts = db.effectReceipts) :
    ReceiptMove env now db action db'
  | saveRecoveryFacts {snapshot : RuntimeSnapshot} {receipts : List EffectReceipt} {db' : Store}
    (hsave : saveRecoveryFacts env snapshot receipts now db = .ok db') :
    ReceiptMove env now db (.saveRecoveryFacts snapshot receipts) db'
  | purge (ownerUserId : String) :
    ReceiptMove env now db (.purgePrivateDataForOwner ownerUserId) (db.erased env ownerUserId)

theorem perform_receipts {action : Action} {reply : Reply}
    (h : perform env now db action = .ok (reply, db')) : ReceiptMove env now db action db' := by
  cases action with
  | purgePrivateDataForOwner ownerUserId =>
    simp only [perform, bind_eq_ok] at h
    obtain ⟨⟨result, _⟩, hpurge, h⟩ := h
    cases h
    rw [purgePrivateDataForOwner_ok hpurge]
    exact .purge ownerUserId
  | saveRecoveryFacts snapshot effectReceipts =>
    simp only [perform, bind_eq_ok] at h
    obtain ⟨_, hsave, h⟩ := h
    cases h
    exact .saveRecoveryFacts hsave
  | putRawSnapshot payload =>
    simp only [perform, bind_eq_ok] at h
    obtain ⟨⟨reference, _⟩, hput, h⟩ := h
    cases h
    obtain ⟨objects, -, rfl⟩ := putRawSnapshot_ok hput
    exact .quiet rfl
  | putEffectResult identity payload =>
    simp only [perform, bind_eq_ok] at h
    obtain ⟨⟨reference, _⟩, hput, h⟩ := h
    cases h
    obtain ⟨objects, bindings, -, -, rfl⟩ := putEffectResult_ok hput
    exact .quiet rfl
  | publishNext retryDelayMs republishDelayMs delivered skipped =>
    simp only [perform] at h
    cases h
    obtain ⟨outbox, hframe, -⟩ :=
      publishNext_frame env retryDelayMs republishDelayMs delivered skipped now db
    rw [hframe]
    exact .quiet rfl
  | deleteEncryptedCredential key =>
    cases h
    exact .quiet rfl
  | saveEvidence row =>
    cases h
    obtain ⟨evidenceIndex, hframe, -⟩ := saveEvidence_eq row db
    rw [hframe]
    exact .quiet rfl
  | skipCursors count =>
    cases h
    exact .quiet rfl
  | submit command ownerUserId =>
    simp only [perform, bind_eq_ok] at h
    obtain ⟨⟨snapshot, _⟩, hsubmit, h⟩ := h
    cases h
    exact .quiet (submit_same hsubmit).effectReceipts
  | claimNext operationId workerId leaseDurationMs =>
    simp only [perform, bind_eq_ok] at h
    obtain ⟨⟨result, _⟩, hclaim, h⟩ := h
    cases h
    exact .quiet (claimNext_same hclaim).effectReceipts
  | claimNextRuntimeControl workerId leaseDurationMs skipped =>
    simp only [perform, bind_eq_ok] at h
    obtain ⟨⟨result, _⟩, hclaim, h⟩ := h
    cases h
    exact .quiet (claimNextRuntimeControl_same hclaim).effectReceipts
  | complete operationId workerId outcome controlRequestId =>
    simp only [perform, bind_eq_ok] at h
    obtain ⟨⟨completion, _⟩, hcomplete, h⟩ := h
    cases h
    exact .quiet (complete_same hcomplete).effectReceipts
  | requestRuntimeResume input =>
    simp only [perform, bind_eq_ok] at h
    obtain ⟨⟨status, _⟩, hrequest, h⟩ := h
    cases h
    exact .quiet (requestRuntimeResume_same hrequest).effectReceipts
  | requestRuntimeCancel input =>
    simp only [perform, bind_eq_ok] at h
    obtain ⟨⟨status, _⟩, hrequest, h⟩ := h
    cases h
    rcases requestRuntimeCancel_ok hrequest with rfl | ⟨_, _, _, -, -, -, -, happends⟩
    · exact .quiet rfl
    · obtain ⟨_, _, _, _, rfl, -⟩ := happends
      exact .quiet rfl
  | recordRuntimeRunning agentRunId controllerId leaseDurationMs =>
    simp only [perform, bind_eq_ok] at h
    obtain ⟨_, hrecord, h⟩ := h
    cases h
    obtain ⟨_, rfl, -⟩ := recordRuntimeRunning_ok hrecord
    exact .quiet rfl
  | claimRuntimeResume agentRunId snapshotId controllerId leaseDurationMs =>
    simp only [perform, bind_eq_ok] at h
    obtain ⟨⟨claim, _⟩, hclaim, h⟩ := h
    cases h
    obtain ⟨_, rfl, -⟩ := claimRuntimeResume_ok hclaim
    exact .quiet rfl
  | completeRuntimeControl agentRunId controllerId expected next state runEvents =>
    simp only [perform, bind_eq_ok] at h
    obtain ⟨_, hcomplete, h⟩ := h
    cases h
    obtain ⟨_, rfl, -⟩ := completeRuntimeControl_ok hcomplete
    exact .quiet rfl
  | claimRuntimeCancel agentRunId cancellationId runEvents =>
    simp only [perform, bind_eq_ok] at h
    obtain ⟨⟨claim, _⟩, hclaim, h⟩ := h
    cases h
    obtain ⟨_, rfl, -⟩ := claimRuntimeCancel_ok hclaim
    exact .quiet rfl
  | appendEgressRecord record =>
    simp only [perform, bind_eq_ok] at h
    obtain ⟨_, happend, h⟩ := h
    cases h
    obtain ⟨_, -, rfl⟩ := appendEgressRecord_ok happend
    exact .quiet rfl
  | appendAuditRecord record =>
    simp only [perform, bind_eq_ok] at h
    obtain ⟨_, happend, h⟩ := h
    cases h
    obtain ⟨_, -, rfl⟩ := appendAuditRecord_ok happend
    exact .quiet rfl
  | saveEncryptedCredential key envelope =>
    simp only [perform, bind_eq_ok] at h
    obtain ⟨_, hsave, h⟩ := h
    cases h
    obtain ⟨_, rfl, -⟩ := saveEncryptedCredential_ok hsave
    exact .quiet rfl

theorem step_receipts {action : Action} {reply : Reply}
    (h : step env db (now, action) = some (reply, db')) : ReceiptMove env now db action db' := by
  rcases step_cases h with hperform | ⟨-, rfl⟩
  · exact perform_receipts hperform
  · exact .quiet rfl

/-! ### The facts of a snapshot -/

/-- A save under the id of the snapshot brings receipts of the same effect events. -/
def SavesOwn (snapshot : RuntimeSnapshot) (receipts : List EffectReceipt) (_ : Store)
    (label : Instant × Action) : Prop :=
  ∀ other others, label.2 = .saveRecoveryFacts other others →
    other.snapshotId = snapshot.snapshotId → ∀ receipt ∈ others,
      receipt.effectReceiptId ∈ receipts.map EffectReceipt.effectReceiptId

/-- The fact of the snapshot with the rows of its receipts. -/
structure FactsKept (snapshot : RuntimeSnapshot) (receipts : List EffectReceipt) (db : Store) :
    Prop where
  fact : ∃ fact ∈ db.recoveryFacts, fact.snapshot = snapshot
  rows : ∀ receipt ∈ receipts, ∃ row ∈ db.effectReceipts,
    row.snapshotId = snapshot.snapshotId ∧ row.receipt = receipt
  only : ∀ row ∈ db.effectReceipts, row.snapshotId = snapshot.snapshotId →
    row.receipt ∈ receipts

section Save

/-- A save keeps the rows of receipts and adds rows of its own. -/
theorem saveRecoveryFacts_receipts (h : saveRecoveryFacts env snapshot receipts now db = .ok db') :
    (∀ row ∈ db.effectReceipts, row ∈ db'.effectReceipts) ∧
      ∀ row ∈ db'.effectReceipts, row ∈ db.effectReceipts ∨
        row.snapshotId = snapshot.snapshotId ∧ row.receipt ∈ receipts := by
  obtain ⟨-, -, facts, -, db₁, hinserted, -, hrecord⟩ := saveRecoveryFacts_eq_ok.mp h
  obtain ⟨controlStates, rfl, -⟩ := recordSnapshot_ok hrecord
  obtain ⟨rows, rfl, hrows⟩ := insertReceipts_ok hinserted
  have hkept := insertReceipts_kept hinserted
  exact ⟨hkept, hrows⟩

/-- What a save lists are the receipts it was given. -/
theorem factsKept_of_save (h : saveRecoveryFacts env snapshot receipts now db = .ok db') :
    FactsKept snapshot receipts db' := by
  obtain ⟨-, -, facts, hfacts, db₁, hinserted, hlisted, hrecord⟩ := saveRecoveryFacts_eq_ok.mp h
  obtain ⟨controlStates, rfl, -⟩ := recordSnapshot_ok hrecord
  obtain ⟨rows, rfl, -⟩ := insertReceipts_ok hinserted
  have hmem : ∀ receipt, receipt ∈ receipts ↔ ∃ row ∈ rows,
      row.snapshotId = snapshot.snapshotId ∧ row.receipt = receipt := by
    intro receipt
    rw [← (sortedBy_perm codeUnitsLe EffectReceipt.effectReceiptId receipts).mem_iff, ← hlisted]
    unfold Store.receiptsOf
    rw [(List.perm_insertionSort _ _).mem_iff, List.mem_map]
    simp only [Table.mem_select, decide_eq_true_eq, and_assoc]
  refine ⟨?_, fun receipt hreceipt => (hmem receipt).mp hreceipt, ?_⟩
  · rcases insertRecoveryFact_ok hfacts with ⟨-, hstored⟩ | hinsert
    · exact hstored
    · exact ⟨_, (Table.mem_insert? hinsert).mpr (.inr rfl), rfl⟩
  · intro row hrow hsnapshot
    exact (hmem row.receipt).mpr ⟨row, hrow, hsnapshot, rfl⟩

end Save

namespace FactsKept
variable {label : Instant × Action} {reply : Reply}

theorem erased (h : FactsKept snapshot receipts db) {ownerUserId : String}
    (hout : snapshot.agentRunId ∉ (db.purgeScope ownerUserId).agentRunIds) :
    FactsKept snapshot receipts (db.erased env ownerUserId) := by
  obtain ⟨fact, hfact, hsnapshot⟩ := h.fact
  have hkept : snapshot.snapshotId ∉ (db.purgeScope ownerUserId).snapshotIds := by
    intro hin
    obtain ⟨other, hother, hrun, hid⟩ := mem_scope_snapshotIds.mp hin
    have hsame : fact.snapshotId = snapshot.snapshotId :=
      congrArg RuntimeSnapshot.snapshotId hsnapshot
    rw [Table.eq_of_key_eq hother hfact (hid.trans hsame.symm)] at hrun
    exact hout (hsnapshot ▸ hrun)
  refine ⟨⟨fact, ?_, hsnapshot⟩, ?_, ?_⟩
  · refine Table.mem_deleteWhere.mpr ⟨hfact, decide_eq_false ?_⟩
    rw [RecoveryFact.snapshotId, hsnapshot]
    exact hkept
  · intro receipt hreceipt
    obtain ⟨row, hrow, hid, hown⟩ := h.rows receipt hreceipt
    refine ⟨row, ?_, hid, hown⟩
    refine Table.mem_deleteWhere.mpr ⟨hrow, decide_eq_false ?_⟩
    rw [hid]
    exact hkept
  · intro row hrow hid
    have hold : row ∈ db.effectReceipts ∧ _ := Table.mem_deleteWhere.mp hrow
    exact h.only row hold.1 hid

theorem step (h : FactsKept snapshot receipts db) (hregistered : Registered db)
    (hspares : Spares snapshot.agentRunId db label) (hown : SavesOwn snapshot receipts db label)
    (hstep : TaskPersistence.step env db label = some (reply, db')) :
    FactsKept snapshot receipts db' := by
  obtain ⟨now, action⟩ := label
  rcases step_rows hstep with hrows | ⟨ownerUserId, rfl, rfl⟩
  · obtain ⟨fact, hfact, hsnapshot⟩ := h.fact
    have hfact' := hrows.factsKept fact hfact
    cases step_receipts hstep with
    | quiet hsame =>
      refine ⟨⟨fact, hfact', hsnapshot⟩, ?_, ?_⟩
      · rw [hsame]
        exact h.rows
      · rw [hsame]
        exact h.only
    | saveRecoveryFacts hsave =>
      obtain ⟨hkept, hnew⟩ := saveRecoveryFacts_receipts hsave
      refine ⟨⟨fact, hfact', hsnapshot⟩, ?_, ?_⟩
      · intro receipt hreceipt
        obtain ⟨row, hrow, hid⟩ := h.rows receipt hreceipt
        exact ⟨row, hkept row hrow, hid⟩
      · intro row hrow hid
        rcases hnew row hrow with hold | ⟨hother, hreceipt⟩
        · exact h.only row hold hid
        · -- the row of the same event is there already
          obtain ⟨receipt, hmem, hsame⟩ :=
            List.mem_map.mp (hown _ _ rfl (hother.symm.trans hid) _ hreceipt)
          obtain ⟨old, hold, -, hreceipt'⟩ := h.rows receipt hmem
          have hids : old.effectReceiptId = row.effectReceiptId := by
            rw [EffectReceiptRow.effectReceiptId, hreceipt', hsame]
            rfl
          rw [← Table.eq_of_key_eq (hkept old hold) hrow hids, hreceipt']
          exact hmem
    | purge ownerUserId => exact h.erased (hspares.notMem_scope hregistered)
  · exact h.erased (hspares.notMem_scope hregistered)

theorem run {es : List (Entry Store (Instant × Action) Reply)} (h : FactsKept snapshot receipts db)
    (hregistered : Registered db) (hrun : Run (TaskPersistence.step env) db es db')
    (hspares : Guarded (Spares snapshot.agentRunId) es)
    (hown : Guarded (SavesOwn snapshot receipts) es) : FactsKept snapshot receipts db' := by
  induction hrun with
  | nil => exact h
  | cons hstep _ ih =>
    rw [Guarded.cons_iff] at hspares hown
    exact ih (h.step hregistered hspares.1 hown.1 hstep)
      (hregistered.change (step_change hstep)) hspares.2 hown.2

theorem mem_receiptsOf (h : FactsKept snapshot receipts db) {receipt : EffectReceipt} :
    receipt ∈ db.receiptsOf env snapshot.snapshotId ↔ receipt ∈ receipts := by
  unfold Store.receiptsOf
  rw [(List.perm_insertionSort _ _).mem_iff, List.mem_map]
  constructor
  · rintro ⟨row, hrow, rfl⟩
    obtain ⟨hstored, hid⟩ := Table.mem_select.mp hrow
    exact h.only row hstored (of_decide_eq_true hid)
  · intro hreceipt
    obtain ⟨row, hrow, hid, hown⟩ := h.rows receipt hreceipt
    exact ⟨row, Table.mem_select.mpr ⟨hrow, decide_eq_true hid⟩, hown⟩

/-- Valid facts are loaded as they were saved. -/
theorem loads (h : FactsKept snapshot receipts db)
    (hvalid : validRecoveryFacts snapshot receipts = true) :
    loadRecoveryFacts env snapshot.snapshotId db =
      .ok (some (snapshot, db.receiptsOf env snapshot.snapshotId)) := by
  simp only [validRecoveryFacts, Bool.and_eq_true, List.all_eq_true] at hvalid
  obtain ⟨fact, hfact, hsnapshot⟩ := h.fact
  have hfound : db.recoveryFacts.find? snapshot.snapshotId = some fact :=
    Table.find?_eq_some.mpr ⟨hfact, congrArg RuntimeSnapshot.snapshotId hsnapshot⟩
  obtain ⟨decoded, hdecoded⟩ := isOk_iff.mp hvalid.1.1
  rw [decodeRuntimeSnapshotV1_eq hdecoded] at hdecoded
  have hall : ((db.receiptsOf env snapshot.snapshotId).all fun receipt =>
      (decodeEffectReceiptV1 receipt).isOk) = true := by
    rw [List.all_eq_true]
    intro receipt hreceipt
    exact hvalid.1.2 receipt (h.mem_receiptsOf.mp hreceipt)
  simp only [loadRecoveryFacts, hfound, hsnapshot, hdecoded, hall, if_true]
  rfl

end FactsKept

end ChoiceMind.TaskPersistence
