import ChoiceMind.TaskPersistence.Recovery

/-!
# Saving recovery facts

When contents, bindings and receipts can be stored, and what the store lists for a snapshot
then.
-/

namespace ChoiceMind.TaskPersistence

set_option autoImplicit false

open Contracts

variable {env : Environment}

/-! ### Storing contents -/

section Contents
variable {objectKey : String → String}

/-- The key of a stored object is made from its digest. -/
def DigestKeyed (objectKey : String → String) (objects : Table ContentObject.digest) : Prop :=
  ∀ object ∈ objects, object.objectKey = objectKey object.digest

/-- A text can be stored unless another text is stored under its digest. -/
theorem exists_putContent (now : Instant) {payload : String} {objects : Table ContentObject.digest}
    (hkeyed : DigestKeyed objectKey objects)
    (hsame : ∀ stored, objects.find? (env.sha256 payload) = some stored →
      stored.payload = payload) :
    ∃ objects', putContent env objectKey payload now objects = .ok objects' ∧
      DigestKeyed objectKey objects' ∧
      ∃ stored, objects'.find? (env.sha256 payload) = some stored ∧ stored.payload = payload := by
  unfold putContent
  cases hfound : objects.find? (env.sha256 payload) with
  | some stored =>
    obtain ⟨hin, hdigest⟩ := Table.find?_eq_some.mp hfound
    have hkey := hkeyed stored hin
    rw [hdigest] at hkey
    refine ⟨objects, ?_, hkeyed, stored, hfound, hsame stored hfound⟩
    simp only [hfound]
    exact if_pos ⟨hkey, hsame stored hfound⟩
  | none =>
    obtain ⟨objects', hinsert⟩ : ∃ objects', objects.insert?
        ⟨env.sha256 payload, objectKey (env.sha256 payload), payload, now⟩ = some objects' :=
      Table.exists_insert? (Table.find?_eq_none.mp hfound)
    refine ⟨objects', ?_, ?_,
      ⟨env.sha256 payload, objectKey (env.sha256 payload), payload, now⟩, ?_, rfl⟩
    · simp only [hfound]
      exact orUnavailable_eq_ok.mpr hinsert
    · intro object hin
      rcases (Table.mem_insert? hinsert).mp hin with hold | rfl
      · exact hkeyed object hold
      · rfl
    · rw [Table.find?_insert? hinsert, if_pos rfl]

/-- An effect can be bound to its result unless it is bound to another one. -/
theorem exists_bindEffectResult (now : Instant) (identity : EffectResultIdentity)
    {digest key : String} {bindings : Table EffectResultBinding.identity}
    (hsame : ∀ stored, bindings.find? identity = some stored →
      stored.digest = digest ∧ stored.objectKey = key) :
    ∃ bindings', bindEffectResult identity digest key now bindings = .ok bindings' ∧
      (∃ stored, bindings'.find? identity = some stored ∧ stored.digest = digest ∧
        stored.objectKey = key) ∧
      (∀ other stored, bindings.find? other = some stored →
        bindings'.find? other = some stored) ∧
      ∀ other, other ≠ identity → bindings'.find? other = bindings.find? other := by
  unfold bindEffectResult
  cases hfound : bindings.find? identity with
  | some stored =>
    refine ⟨bindings, ?_, ⟨stored, hfound, hsame stored hfound⟩, fun _ _ h => h, fun _ _ => rfl⟩
    exact if_pos (hsame stored hfound)
  | none =>
    obtain ⟨bindings', hinsert⟩ : ∃ bindings',
        bindings.insert? ⟨identity, digest, key, now⟩ = some bindings' :=
      Table.exists_insert? (Table.find?_eq_none.mp hfound)
    refine ⟨bindings', orUnavailable_eq_ok.mpr hinsert,
      ⟨⟨identity, digest, key, now⟩, ?_, rfl, rfl⟩, ?_, ?_⟩
    · rw [Table.find?_insert? hinsert, if_pos rfl]
    · intro other stored hstored
      have hother : other ≠ identity := by
        rintro rfl
        rw [hfound] at hstored
        cases hstored
      rw [Table.find?_insert? hinsert, if_neg hother]
      exact hstored
    · intro other hother
      rw [Table.find?_insert? hinsert, if_neg hother]

end Contents

/-! ### Saving the facts of a snapshot -/

section Save
variable {now : Instant} {db : Store}

/-- Fresh receipts with bound results are appended, one row each. -/
theorem exists_insertReceipts (snapshotId : String) (now : Instant) {receipts : List EffectReceipt}
    (hbound : ∀ receipt ∈ receipts, db.resultBound receipt = true)
    (hfresh : ∀ receipt ∈ receipts, db.effectReceipts.find? receipt.effectReceiptId = none)
    (hdistinct : (receipts.map EffectReceipt.effectReceiptId).Nodup) :
    ∃ rows, insertReceipts snapshotId now receipts db = .ok { db with effectReceipts := rows } ∧
      rows.rows = db.effectReceipts.rows ++ receipts.map fun receipt => ⟨snapshotId, receipt, now⟩ := by
  induction receipts generalizing db with
  | nil => exact ⟨db.effectReceipts, rfl, by simp⟩
  | cons receipt receipts ih =>
    rw [List.forall_mem_cons] at hbound hfresh
    rw [List.map_cons, List.nodup_cons] at hdistinct
    obtain ⟨inserted, hinsert⟩ : ∃ inserted,
        db.effectReceipts.insert? ⟨snapshotId, receipt, now⟩ = some inserted :=
      Table.exists_insert? (Table.find?_eq_none.mp hfresh.1)
    have hrest : ∀ other ∈ receipts, inserted.find? other.effectReceiptId = none := by
      intro other hother
      rw [Table.find?_insert? hinsert, if_neg]
      · exact hfresh.2 other hother
      · intro hsame
        exact hdistinct.1 (List.mem_map.mpr ⟨other, hother, hsame⟩)
    obtain ⟨rows, hrows, happended⟩ :=
      @ih { db with effectReceipts := inserted } hbound.2 hrest hdistinct.2
    refine ⟨rows, ?_, ?_⟩
    · simp only [insertReceipts, hbound.1, hfresh.1, hinsert]
      exact hrows
    · rw [happended, Table.rows_insert? hinsert, List.map_cons, List.append_assoc,
        List.singleton_append]

/-- A saved snapshot is given to a running control row that has none; other rows stay. -/
theorem exists_recordSnapshot {snapshot : RuntimeSnapshot} {reason : PauseReason}
    {row : ControlState} (hstate : snapshot.taskState = .paused reason)
    (hrow : db.controlStates.find? snapshot.agentRunId = some row) (hrunning : row.state = .running) :
    ∃ controlStates, recordSnapshot snapshot now db = .ok { db with controlStates } ∧
      (∃ row', controlStates.find? snapshot.agentRunId = some row' ∧ row'.state = .running ∧
        row'.controllerId = row.controllerId ∧
        row'.snapshotId = some (row.snapshotId.getD snapshot.snapshotId)) ∧
      ∀ other, other ≠ snapshot.agentRunId →
        controlStates.find? other = db.controlStates.find? other := by
  unfold recordSnapshot
  simp only [hstate, controlStateOf, hrow]
  by_cases hnone : row.snapshotId = none
  · refine ⟨_, if_pos ⟨hrunning, hnone⟩, ?_, ?_⟩
    · refine ⟨linkSnapshot snapshot now row, ?_, hrunning, rfl, ?_⟩
      · rw [Table.find?_update_self, hrow]
        rfl
      · rw [hnone]
        rfl
    · intro other hother
      rw [Table.find?_update, if_neg hother]
  · refine ⟨db.controlStates, if_neg fun hboth => hnone hboth.2, ?_, fun _ _ => rfl⟩
    obtain ⟨old, hold⟩ := Option.ne_none_iff_exists'.mp hnone
    exact ⟨row, hrow, hrunning, rfl, by rw [hold]; rfl⟩

/-- The receipts of a snapshot that had none, in the order of the database. -/
theorem receiptsOf_appended {snapshotId : String} {receipts : List EffectReceipt}
    {rows : Table EffectReceiptRow.effectReceiptId}
    (howned : ∀ row ∈ db.effectReceipts, row.snapshotId ≠ snapshotId)
    (happended : rows.rows =
      db.effectReceipts.rows ++ receipts.map fun receipt => ⟨snapshotId, receipt, now⟩)
    {db' : Store} (hrows : db'.effectReceipts = rows) :
    db'.receiptsOf env snapshotId = receipts.insertionSort fun a b =>
      env.collate a.effectReceiptId b.effectReceiptId := by
  have hselected : (rows.select fun row => row.snapshotId = snapshotId).map
      EffectReceiptRow.receipt = receipts := by
    unfold Table.select
    rw [happended, List.filter_append, List.filter_eq_nil_iff.mpr, List.nil_append,
      List.filter_eq_self.mpr, List.map_map]
    · exact List.map_id _
    · intro row hrow
      obtain ⟨receipt, -, rfl⟩ := List.mem_map.mp hrow
      simp
    · intro row hrow
      simpa using howned row hrow
  unfold Store.receiptsOf
  rw [hrows, hselected]

/-- Receipts that a new snapshot can have: none is stored, they differ, and the database sorts
them as their code units do. -/
structure Insertable (env : Environment) (db : Store) (receipts : List EffectReceipt) : Prop where
  fresh : ∀ receipt ∈ receipts, db.effectReceipts.find? receipt.effectReceiptId = none
  distinct : (receipts.map EffectReceipt.effectReceiptId).Nodup
  collated : (receipts.insertionSort fun a b =>
      env.collate a.effectReceiptId b.effectReceiptId) =
    receipts.insertionSort fun a b => codeUnitsLe a.effectReceiptId b.effectReceiptId

theorem insertReceipts_kept {snapshotId : String} {receipts : List EffectReceipt} {db' : Store}
    (h : insertReceipts snapshotId now receipts db = .ok db') :
    ∀ row ∈ db.effectReceipts, row ∈ db'.effectReceipts := by
  induction receipts generalizing db with
  | nil =>
    cases h
    exact fun row hrow => hrow
  | cons receipt receipts ih =>
    simp only [insertReceipts] at h
    split at h
    · cases h
    split at h
    · exact ih h
    · simp only [bind_eq_ok, orUnavailable_eq_ok] at h
      obtain ⟨inserted, hinsert, h⟩ := h
      exact fun row hrow => ih h row ((Table.mem_insert? hinsert).mpr (.inl hrow))

/-- Only insertable receipts are saved under a new snapshot: the others are not listed with it. -/
theorem saveRecoveryFacts_insertable {snapshot : RuntimeSnapshot} {receipts : List EffectReceipt}
    {db' : Store} (h : saveRecoveryFacts env snapshot receipts now db = .ok db')
    (howned : ∀ row ∈ db.effectReceipts, row.snapshotId ≠ snapshot.snapshotId)
    (hbound : ∀ receipt ∈ receipts, db.resultBound receipt = true) :
    Insertable env db receipts := by
  unfold saveRecoveryFacts at h
  split at h
  · cases h
  split at h
  · cases h
  simp only [bind_eq_ok] at h
  obtain ⟨facts, -, db₁, hinserted, h⟩ := h
  split at h
  · cases h
  rename_i hlisted
  rw [ne_eq, not_not] at hlisted
  have hperm : (db₁.receiptsOf env snapshot.snapshotId).Perm receipts := by
    rw [hlisted]
    exact List.perm_insertionSort _ _
  have hfresh : ∀ receipt ∈ receipts,
      db.effectReceipts.find? receipt.effectReceiptId = none := by
    intro receipt hreceipt
    have hin := hperm.mem_iff.mpr hreceipt
    unfold Store.receiptsOf at hin
    rw [(List.perm_insertionSort _ _).mem_iff] at hin
    obtain ⟨row, hrow, rfl⟩ := List.mem_map.mp hin
    obtain ⟨hstored, hsnapshot⟩ := Table.mem_select.mp hrow
    rw [Table.find?_eq_none]
    intro old hold hsame
    have heq : old = row := Table.eq_of_key_eq (insertReceipts_kept hinserted old hold) hstored hsame
    exact howned old hold (heq ▸ of_decide_eq_true hsnapshot)
  have hdistinct : (receipts.map EffectReceipt.effectReceiptId).Nodup := by
    have hkeys : ((db₁.effectReceipts.select fun row => row.snapshotId = snapshot.snapshotId).map
        EffectReceiptRow.effectReceiptId).Nodup :=
      db₁.effectReceipts.keys_nodup.sublist (List.filter_sublist.map _)
    have hsorted : (db₁.receiptsOf env snapshot.snapshotId).Perm
        ((db₁.effectReceipts.select fun row => row.snapshotId = snapshot.snapshotId).map
          EffectReceiptRow.receipt) := List.perm_insertionSort _ _
    have hids := (hperm.symm.trans hsorted).map EffectReceipt.effectReceiptId
    rw [List.map_map] at hids
    exact hids.nodup_iff.mpr hkeys
  obtain ⟨rows, hrows, happended⟩ := @exists_insertReceipts { db with recoveryFacts := facts }
    snapshot.snapshotId now receipts hbound hfresh hdistinct
  rw [hinserted, Except.ok.injEq] at hrows
  subst hrows
  exact ⟨hfresh, hdistinct, (receiptsOf_appended howned happended rfl).symm.trans hlisted⟩

/-- When the facts of a new snapshot can be saved, and what is stored then. -/
theorem exists_saveRecoveryFacts (now : Instant) {snapshot : RuntimeSnapshot}
    {receipts : List EffectReceipt} {reason : PauseReason} {row : ControlState}
    (hvalid : validRecoveryFacts snapshot receipts = true)
    (hobject : ∃ stored, db.snapshotObjects.find? snapshot.rawSnapshot.digest = some stored ∧
      stored.objectKey = snapshot.rawSnapshot.objectKey)
    (hnew : db.recoveryFacts.find? snapshot.snapshotId = none)
    (howned : ∀ row ∈ db.effectReceipts, row.snapshotId ≠ snapshot.snapshotId)
    (hbound : ∀ receipt ∈ receipts, db.resultBound receipt = true)
    (hinsertable : Insertable env db receipts)
    (hstate : snapshot.taskState = .paused reason)
    (hrow : db.controlStates.find? snapshot.agentRunId = some row)
    (hrunning : row.state = .running) :
    ∃ db', saveRecoveryFacts env snapshot receipts now db = .ok db' ∧
      db'.snapshotObjects = db.snapshotObjects ∧
      db'.effectResultObjects = db.effectResultObjects ∧
      db.recoveryFacts.insert? ⟨snapshot, now⟩ = some db'.recoveryFacts ∧
      db'.effectReceipts.rows = db.effectReceipts.rows ++
        (receipts.map fun receipt => ⟨snapshot.snapshotId, receipt, now⟩) ∧
      (∃ row', db'.controlStates.find? snapshot.agentRunId = some row' ∧ row'.state = .running ∧
        row'.controllerId = row.controllerId ∧
        row'.snapshotId = some (row.snapshotId.getD snapshot.snapshotId)) ∧
      ∀ other, other ≠ snapshot.agentRunId →
        db'.controlStates.find? other = db.controlStates.find? other := by
  obtain ⟨facts, hfacts⟩ : ∃ facts, db.recoveryFacts.insert? ⟨snapshot, now⟩ = some facts :=
    Table.exists_insert? (Table.find?_eq_none.mp hnew)
  obtain ⟨rows, hrows, happended⟩ := @exists_insertReceipts { db with recoveryFacts := facts }
    snapshot.snapshotId now receipts hbound hinsertable.fresh hinsertable.distinct
  obtain ⟨controlStates, hrecorded, hown, hothers⟩ := @exists_recordSnapshot now
    { db with recoveryFacts := facts, effectReceipts := rows } snapshot reason row hstate hrow
    hrunning
  obtain ⟨stored, hstored, hkey⟩ := hobject
  have hpresent : (db.snapshotObjects.find? snapshot.rawSnapshot.digest).any
      (fun stored => stored.objectKey = snapshot.rawSnapshot.objectKey) = true := by
    simp [hstored, hkey]
  refine ⟨{ db with recoveryFacts := facts, effectReceipts := rows, controlStates }, ?_, rfl, rfl,
    hfacts, happended, hown, hothers⟩
  have hinserted : insertRecoveryFact snapshot now db.recoveryFacts = .ok facts := by
    unfold insertRecoveryFact
    simp only [hnew, hfacts]
    rfl
  have hlisted : ({ db with recoveryFacts := facts, effectReceipts := rows } : Store).receiptsOf
      env snapshot.snapshotId = receipts.insertionSort fun a b =>
        codeUnitsLe a.effectReceiptId b.effectReceiptId :=
    (receiptsOf_appended howned happended rfl).trans hinsertable.collated
  simp only [saveRecoveryFacts, hvalid, hpresent, Bool.not_true, Bool.false_eq_true, if_false]
  rw [bind_eq_ok]
  refine ⟨facts, hinserted, ?_⟩
  rw [bind_eq_ok]
  refine ⟨_, hrows, ?_⟩
  rw [if_neg (not_not.mpr hlisted)]
  exact hrecorded

end Save

end ChoiceMind.TaskPersistence
