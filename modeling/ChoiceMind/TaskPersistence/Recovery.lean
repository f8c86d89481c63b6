import ChoiceMind.TaskPersistence.Control

/-!
# The runtime recovery store

Content objects, recovery facts and the control state of a run, as the Runtime adapter
writes them. No table here refers to the run it is about.
-/

namespace ChoiceMind.TaskPersistence

set_option autoImplicit false

open Contracts

/-- `INSERT … ON CONFLICT (digest) DO NOTHING`, then compare what is stored. -/
def putContent (env : Environment) (objectKey : String → String) (payload : String)
    (createdAt : Instant) (objects : Table ContentObject.digest) :
    Except PersistenceError (Table ContentObject.digest) :=
  let digest := env.sha256 payload
  match objects.find? digest with
  | none => orUnavailable (objects.insert? ⟨digest, objectKey digest, payload, createdAt⟩)
  | some stored =>
    if stored.objectKey = objectKey digest ∧ stored.payload = payload then .ok objects
    else unavailable

def putRawSnapshot (env : Environment) (payload : String) (createdAt : Instant) (db : Store) :
    Except PersistenceError (RawRuntimeSnapshotRef × Store) := do
  let digest := env.sha256 payload
  let snapshotObjects ←
    putContent env runtimeSnapshotObjectKey payload createdAt db.snapshotObjects
  .ok (⟨digest, runtimeSnapshotObjectKey digest⟩, { db with snapshotObjects })

def loadRawSnapshot (env : Environment) (reference : RawRuntimeSnapshotRef) (db : Store) :
    Except PersistenceError (Option String) :=
  if !isSha256Digest reference.digest ∨
      reference.objectKey ≠ runtimeSnapshotObjectKey reference.digest then unavailable
  else match (db.snapshotObjects.find? reference.digest).filter fun stored =>
      stored.objectKey = reference.objectKey with
    | none => .ok none
    | some stored =>
      if env.sha256 stored.payload ≠ reference.digest then unavailable
      else .ok (some stored.payload)

/-- The binding of an effect to its result object, `ON CONFLICT DO NOTHING`. -/
def bindEffectResult (identity : EffectResultIdentity) (digest objectKey : String)
    (createdAt : Instant) (bindings : Table EffectResultBinding.identity) :
    Except PersistenceError (Table EffectResultBinding.identity) :=
  match bindings.find? identity with
  | none => orUnavailable (bindings.insert? ⟨identity, digest, objectKey, createdAt⟩)
  | some stored =>
    if stored.digest = digest ∧ stored.objectKey = objectKey then .ok bindings
    else unavailable

def putEffectResult (env : Environment) (identity : EffectResultIdentity) (payload : String)
    (createdAt : Instant) (db : Store) :
    Except PersistenceError (EffectResultRef × Store) := do
  if identity.decisionTaskId = "" ∨ identity.agentRunId = "" ∨ identity.checkpointId = "" ∨
      identity.effectId = "" then unavailable
  else
    let digest := env.sha256 payload
    let effectResultObjects ←
      putContent env effectResultObjectKey payload createdAt db.effectResultObjects
    let effectResultBindings ← bindEffectResult identity digest (effectResultObjectKey digest)
      createdAt db.effectResultBindings
    .ok
      (⟨digest, effectResultObjectKey digest, identity.decisionTaskId, identity.agentRunId,
          identity.checkpointId, identity.effectId⟩,
        { db with effectResultObjects, effectResultBindings })

def bindingIdentity (reference : EffectResultRef) : EffectResultIdentity :=
  ⟨reference.decisionTaskId, reference.agentRunId, reference.checkpointId, reference.effectId⟩

/-- The binding of a committed result is stored. -/
def Store.hasBinding (db : Store) (reference : EffectResultRef) : Bool :=
  (db.effectResultBindings.find? (bindingIdentity reference)).any fun binding =>
    binding.digest = reference.digest && binding.objectKey = reference.objectKey

def loadEffectResult (env : Environment) (reference : EffectResultRef) (db : Store) :
    Except PersistenceError (Option String) :=
  if !isSha256Digest reference.digest ∨
      reference.objectKey ≠ effectResultObjectKey reference.digest then unavailable
  else if !db.hasBinding reference then .ok none
  else match (db.effectResultObjects.find? reference.digest).filter fun stored =>
      stored.objectKey = reference.objectKey with
    | none => .ok none
    | some stored =>
      if env.sha256 stored.payload ≠ reference.digest then .error .effectResultInvalid
      else .ok (some stored.payload)

/-- The task state as a value of `runtime_control_states.state`; `none` violates the
column's check. -/
def controlStateOf : TaskState → Option RuntimeControlState
  | .paused reason => some (.paused reason)
  | .completed => some .completed
  | .cancelled => some .cancelled
  | .failed => some .failed
  | _ => none

/-- A committed receipt has its result bound. -/
def Store.resultBound (db : Store) (receipt : EffectReceipt) : Bool :=
  match receipt.state with
  | .committed result => db.hasBinding result
  | _ => true

/-- `INSERT … ON CONFLICT (snapshot_id) DO NOTHING`, then compare what is stored. -/
def insertRecoveryFact (snapshot : RuntimeSnapshot) (createdAt : Instant)
    (facts : Table RecoveryFact.snapshotId) :
    Except PersistenceError (Table RecoveryFact.snapshotId) :=
  match facts.find? snapshot.snapshotId with
  | none => orUnavailable (facts.insert? ⟨snapshot, createdAt⟩)
  | some existing => if existing.snapshot = snapshot then .ok facts else unavailable

/-- The loop that inserts the receipts of a snapshot. -/
def insertReceipts (snapshotId : String) (createdAt : Instant) :
    List EffectReceipt → Store → Except PersistenceError Store
  | [], db => .ok db
  | receipt :: receipts, db => do
    if !db.resultBound receipt then unavailable
    else match db.effectReceipts.find? receipt.effectReceiptId with
      | some _ => insertReceipts snapshotId createdAt receipts db
      | none =>
        let effectReceipts ←
          orUnavailable (db.effectReceipts.insert? ⟨snapshotId, receipt, createdAt⟩)
        insertReceipts snapshotId createdAt receipts { db with effectReceipts }

/-- The snapshot that a running control state is given. -/
def linkSnapshot (snapshot : RuntimeSnapshot) (updatedAt : Instant) (row : ControlState) :
    ControlState :=
  { row with snapshotId := some snapshot.snapshotId, updatedAt }

theorem linkSnapshot_agentRunId (snapshot : RuntimeSnapshot) (updatedAt : Instant)
    (row : ControlState) : (linkSnapshot snapshot updatedAt row).agentRunId = row.agentRunId := rfl

/-- The control state that a saved snapshot leaves: a new row, or the snapshot of a
running row that has none. -/
def recordSnapshot (snapshot : RuntimeSnapshot) (updatedAt : Instant) (db : Store) :
    Except PersistenceError Store := do
  match controlStateOf snapshot.taskState with
  | none => unavailable
  | some state =>
    match db.controlStates.find? snapshot.agentRunId with
    | none =>
      .ok { db with
        controlStates := ← orUnavailable (db.controlStates.insert?
          ⟨snapshot.agentRunId, some snapshot.snapshotId, state, none, [], none, none,
            updatedAt⟩) }
    | some row =>
      if row.state = .running ∧ row.snapshotId = none then
        .ok { db with
          controlStates := db.controlStates.update snapshot.agentRunId
            (linkSnapshot snapshot updatedAt) (linkSnapshot_agentRunId snapshot updatedAt) }
      else .ok db

/-- The snapshot and its receipts satisfy their contracts and name one run. -/
def validRecoveryFacts (snapshot : RuntimeSnapshot) (effectReceipts : List EffectReceipt) :
    Bool :=
  (decodeRuntimeSnapshotV1 snapshot).isOk &&
    (effectReceipts.all fun receipt => (decodeEffectReceiptV1 receipt).isOk) &&
    effectReceipts.all fun receipt => receipt.belongsTo snapshot

def saveRecoveryFacts (env : Environment) (snapshot : RuntimeSnapshot)
    (effectReceipts : List EffectReceipt) (createdAt : Instant) (db : Store) :
    Except PersistenceError Store := do
  if !validRecoveryFacts snapshot effectReceipts then unavailable
  else if !(db.snapshotObjects.find? snapshot.rawSnapshot.digest).any fun stored =>
      stored.objectKey = snapshot.rawSnapshot.objectKey then unavailable
  else
    let recoveryFacts ← insertRecoveryFact snapshot createdAt db.recoveryFacts
    let db₁ ← insertReceipts snapshot.snapshotId createdAt effectReceipts
      { db with recoveryFacts }
    let expected := effectReceipts.insertionSort fun a b =>
      codeUnitsLe a.effectReceiptId b.effectReceiptId
    if db₁.receiptsOf env snapshot.snapshotId ≠ expected then unavailable
    else recordSnapshot snapshot createdAt db₁

def loadRecoveryFacts (env : Environment) (snapshotId : String) (db : Store) :
    Except PersistenceError (Option (RuntimeSnapshot × List EffectReceipt)) := do
  match db.recoveryFacts.find? snapshotId with
  | none => .ok none
  | some fact =>
    let snapshot ← decodedOrUnavailable (decodeRuntimeSnapshotV1 fact.snapshot)
    let receipts := db.receiptsOf env snapshotId
    if receipts.all fun receipt => (decodeEffectReceiptV1 receipt).isOk then
      .ok (some (snapshot, receipts))
    else unavailable

inductive ControlClaimStatus
  | acquired
  | unchanged
  | busy
  | denied
  deriving DecidableEq, Repr

structure ControlClaim where
  status : ControlClaimStatus
  state : RuntimeControlState
  runEvents : List RunEvent
  deriving DecidableEq

/-- The `WHERE` clause under which a controller may take over a running row. -/
def ControlState.admitsRunning (row : ControlState) (controllerId : String)
    (updatedAt : Instant) : Bool :=
  row.state = .running &&
    (row.controllerId = some controllerId ||
      (row.snapshotId = none && row.leaseExpiresAt.any fun expiry => expiry ≤ updatedAt))

def recordRuntimeRunning (agentRunId controllerId : String) (leaseDurationMs : Nat)
    (updatedAt : Instant) (db : Store) : Except PersistenceError Store := do
  match db.controlStates.find? agentRunId with
  | none =>
    .ok { db with
      controlStates := ← orUnavailable (db.controlStates.insert?
        ⟨agentRunId, none, .running, none, [], some controllerId,
          some (updatedAt + leaseDurationMs), updatedAt⟩) }
  | some row =>
    if row.admitsRunning controllerId updatedAt then
      .ok { db with
        controlStates := db.controlStates.update agentRunId fun row =>
          { row with
            controllerId := some controllerId
            leaseExpiresAt := some (updatedAt + leaseDurationMs)
            updatedAt } }
    else unavailable

def RuntimeControlState.isPaused : RuntimeControlState → Bool
  | .paused _ => true
  | _ => false

def claimRuntimeResume (agentRunId snapshotId controllerId : String) (leaseDurationMs : Nat)
    (updatedAt : Instant) (db : Store) : Except PersistenceError (ControlClaim × Store) :=
  match db.controlStates.find? agentRunId with
  | none => unavailable
  | some row =>
    if row.snapshotId ≠ some snapshotId then .ok (⟨.denied, row.state, row.events⟩, db)
    else if row.state = .running ∧ row.controllerId = some controllerId then
      .ok (⟨.unchanged, row.state, row.events⟩, db)
    else if row.state = .running ∧ row.leaseExpiresAt.any fun expiry => updatedAt < expiry then
      .ok (⟨.busy, row.state, row.events⟩, db)
    else if row.state = .completed then .ok (⟨.unchanged, row.state, row.events⟩, db)
    else if row.state ≠ .running ∧ !row.state.isPaused then
      .ok (⟨.denied, row.state, row.events⟩, db)
    else
      .ok (⟨.acquired, .running, []⟩, { db with
        controlStates := db.controlStates.update agentRunId fun row =>
          { row with
            state := .running
            events := []
            controllerId := some controllerId
            leaseExpiresAt := some (updatedAt + leaseDurationMs)
            updatedAt } })

/-- The `WHERE` clause of `completeRuntimeControl`. -/
def ControlState.completableBy (row : ControlState) (controllerId : String)
    (expectedSnapshotId : Option String) : Bool :=
  row.snapshotId = expectedSnapshotId && row.state = .running &&
    row.controllerId = some controllerId

def completeRuntimeControl (agentRunId controllerId : String)
    (expectedSnapshotId nextSnapshotId : Option String) (state : RuntimeControlState)
    (runEvents : List RunEvent) (updatedAt : Instant) (db : Store) :
    Except PersistenceError Store :=
  match db.controlStates.find? agentRunId with
  | none => unavailable
  | some row =>
    if row.completableBy controllerId expectedSnapshotId then
      if nextSnapshotId.any fun snapshotId => (db.recoveryFacts.find? snapshotId).isNone then
        unavailable
      else
        .ok { db with
          controlStates := db.controlStates.update agentRunId fun row =>
            { row with
              snapshotId := nextSnapshotId
              state
              events := runEvents
              controllerId := none
              leaseExpiresAt := none
              updatedAt } }
    else if row.snapshotId = nextSnapshotId ∧ row.state = state ∧ row.events = runEvents then
      .ok db
    else unavailable

def claimRuntimeCancel (agentRunId cancellationId : String) (runEvents : List RunEvent)
    (updatedAt : Instant) (db : Store) : Except PersistenceError (ControlClaim × Store) :=
  match db.controlStates.find? agentRunId with
  | none => unavailable
  | some row =>
    if row.state = .cancelled then .ok (⟨.unchanged, row.state, row.events⟩, db)
    else if row.state = .completed ∨ row.state = .failed then
      .ok (⟨.denied, row.state, row.events⟩, db)
    else
      .ok (⟨.acquired, .cancelled, runEvents⟩, { db with
        controlStates := db.controlStates.update agentRunId fun row =>
          { row with
            state := .cancelled
            cancellationId := some cancellationId
            events := runEvents
            controllerId := none
            leaseExpiresAt := none
            updatedAt } })

def isRuntimeCancelled (agentRunId : String) (db : Store) : Bool :=
  (db.controlStates.find? agentRunId).any fun row => row.state = .cancelled

def appendEgressRecord (record : EgressRecord) (db : Store) : Except PersistenceError Store := do
  .ok { db with egressRecords := ← orUnavailable (db.egressRecords.insert? record) }

/-- The states that a control row does not leave. -/
def RuntimeControlState.isTerminal : RuntimeControlState → Bool
  | .completed | .cancelled | .failed => true
  | .running | .paused _ => false

/-- What a call of this module does to the control row of one run. -/
inductive RowAdvance : Option ControlState → Option ControlState → Prop where
  | same (row : Option ControlState) : RowAdvance row row
  | opened (row : ControlState) : RowAdvance none (some row)
  | advanced {row : ControlState} (row' : ControlState) (hopen : row.state.isTerminal = false) :
      RowAdvance (some row) (some row')

def RowsAdvance (states states' : Table ControlState.agentRunId) : Prop :=
  ∀ agentRunId, RowAdvance (states.find? agentRunId) (states'.find? agentRunId)

namespace RowsAdvance
variable {states states' : Table ControlState.agentRunId} {row : ControlState}

theorem refl (states : Table ControlState.agentRunId) : RowsAdvance states states :=
  fun _ => .same _

theorem insert (h : states.insert? row = some states') : RowsAdvance states states' := by
  intro agentRunId
  rw [Table.find?_insert? h]
  split
  · rename_i hsame
    rw [hsame, Table.find?_eq_none.mpr (Table.key_fresh_of_insert? h)]
    exact .opened row
  · exact .same _

theorem update {agentRunId : String} {f : ControlState → ControlState}
    {hf : ∀ row, (f row).agentRunId = row.agentRunId}
    (hrow : states.find? agentRunId = some row) (hopen : row.state.isTerminal = false) :
    RowsAdvance states (states.update agentRunId f hf) := by
  intro other
  rw [Table.find?_update]
  split
  · rename_i hsame
    rw [hsame, hrow]
    exact .advanced _ hopen
  · exact .same _

end RowsAdvance

section Specs
variable {env : Environment} {now : Instant} {db db' : Store}

theorem putContent_ok {objectKey : String → String} {payload : String}
    {objects objects' : Table ContentObject.digest}
    (h : putContent env objectKey payload now objects = .ok objects') :
    objects' = objects ∨
      objects.insert? ⟨env.sha256 payload, objectKey (env.sha256 payload), payload, now⟩ =
        some objects' := by
  unfold putContent at h
  simp only at h
  split at h
  · rw [orUnavailable_eq_ok] at h
    exact .inr h
  · split at h
    · cases h
      exact .inl rfl
    · cases h

theorem putRawSnapshot_ok {payload : String} {reference : RawRuntimeSnapshotRef}
    (h : putRawSnapshot env payload now db = .ok (reference, db')) :
    ∃ snapshotObjects,
      putContent env runtimeSnapshotObjectKey payload now db.snapshotObjects =
        .ok snapshotObjects ∧
      db' = { db with snapshotObjects } := by
  simp only [putRawSnapshot, bind_eq_ok] at h
  obtain ⟨snapshotObjects, hput, h⟩ := h
  cases h
  exact ⟨snapshotObjects, hput, rfl⟩

theorem bindEffectResult_ok {identity : EffectResultIdentity} {digest objectKey : String}
    {bindings bindings' : Table EffectResultBinding.identity}
    (h : bindEffectResult identity digest objectKey now bindings = .ok bindings') :
    (bindings' = bindings ∧ ∃ stored ∈ bindings, stored.digest = digest) ∨
      bindings.insert? ⟨identity, digest, objectKey, now⟩ = some bindings' := by
  unfold bindEffectResult at h
  split at h
  · rw [orUnavailable_eq_ok] at h
    exact .inr h
  · rename_i stored hstored
    split at h
    · rename_i hsame
      cases h
      exact .inl ⟨rfl, stored, (Table.find?_eq_some.mp hstored).1, hsame.1⟩
    · cases h

theorem putEffectResult_ok {identity : EffectResultIdentity} {payload : String}
    {reference : EffectResultRef}
    (h : putEffectResult env identity payload now db = .ok (reference, db')) :
    ∃ effectResultObjects effectResultBindings,
      putContent env effectResultObjectKey payload now db.effectResultObjects =
        .ok effectResultObjects ∧
      bindEffectResult identity (env.sha256 payload)
          (effectResultObjectKey (env.sha256 payload)) now db.effectResultBindings =
        .ok effectResultBindings ∧
      db' = { db with effectResultObjects, effectResultBindings } := by
  unfold putEffectResult at h
  split at h
  · cases h
  simp only [bind_eq_ok] at h
  obtain ⟨effectResultObjects, hput, effectResultBindings, hbind, h⟩ := h
  cases h
  exact ⟨effectResultObjects, effectResultBindings, hput, hbind, rfl⟩

theorem insertReceipts_ok {snapshotId : String} {receipts : List EffectReceipt}
    (h : insertReceipts snapshotId now receipts db = .ok db') :
    ∃ effectReceipts, db' = { db with effectReceipts } ∧
      ∀ row ∈ effectReceipts, row ∈ db.effectReceipts ∨
        row.snapshotId = snapshotId ∧ row.receipt ∈ receipts := by
  induction receipts generalizing db with
  | nil =>
    cases h
    exact ⟨_, rfl, fun row hrow => .inl hrow⟩
  | cons receipt receipts ih =>
    simp only [insertReceipts] at h
    split at h
    · cases h
    split at h
    · obtain ⟨effectReceipts, rfl, hrows⟩ := ih h
      refine ⟨effectReceipts, rfl, fun row hrow => ?_⟩
      rcases hrows row hrow with hold | ⟨hid, hreceipt⟩
      · exact .inl hold
      · exact .inr ⟨hid, List.mem_cons_of_mem _ hreceipt⟩
    · simp only [bind_eq_ok, orUnavailable_eq_ok] at h
      obtain ⟨inserted, hinsert, h⟩ := h
      obtain ⟨effectReceipts, rfl, hrows⟩ := ih h
      refine ⟨effectReceipts, rfl, fun row hrow => ?_⟩
      rcases hrows row hrow with hold | ⟨hid, hreceipt⟩
      · rcases (Table.mem_insert? hinsert).mp hold with hold | rfl
        · exact .inl hold
        · exact .inr ⟨rfl, List.mem_cons_self⟩
      · exact .inr ⟨hid, List.mem_cons_of_mem _ hreceipt⟩

theorem recordSnapshot_ok {snapshot : RuntimeSnapshot}
    (h : recordSnapshot snapshot now db = .ok db') :
    ∃ controlStates, db' = { db with controlStates } ∧
      db.controlStates.KeysWithin controlStates [snapshot.agentRunId] ∧
      RowsAdvance db.controlStates controlStates := by
  unfold recordSnapshot at h
  split at h
  · cases h
  split at h
  · simp only [bind_eq_ok, orUnavailable_eq_ok] at h
    obtain ⟨controlStates, hinsert, h⟩ := h
    cases h
    exact ⟨controlStates, rfl, .insert hinsert, .insert hinsert⟩
  · rename_i row hrow
    split at h
    · rename_i hrunning
      cases h
      refine ⟨_, rfl, .update _ _ _, .update hrow ?_⟩
      rw [hrunning.1]
      rfl
    · cases h
      exact ⟨_, rfl, .refl _ _, .refl _⟩

theorem insertRecoveryFact_ok {snapshot : RuntimeSnapshot}
    {facts facts' : Table RecoveryFact.snapshotId}
    (h : insertRecoveryFact snapshot now facts = .ok facts') :
    (facts' = facts ∧ ∃ fact ∈ facts', fact.snapshot = snapshot) ∨
      facts.insert? ⟨snapshot, now⟩ = some facts' := by
  unfold insertRecoveryFact at h
  split at h
  · rw [orUnavailable_eq_ok] at h
    exact .inr h
  · rename_i existing hexisting
    split at h
    · rename_i hsame
      cases h
      exact .inl ⟨rfl, existing, (Table.find?_eq_some.mp hexisting).1, hsame⟩
    · cases h

theorem saveRecoveryFacts_ok {snapshot : RuntimeSnapshot} {effectReceipts : List EffectReceipt}
    (h : saveRecoveryFacts env snapshot effectReceipts now db = .ok db') :
    (∀ receipt ∈ effectReceipts, receipt.belongsTo snapshot = true) ∧
      (∃ object ∈ db.snapshotObjects, object.digest = snapshot.rawSnapshot.digest) ∧
      ∃ facts receipts controlStates,
        db' = { db with
          recoveryFacts := facts
          effectReceipts := receipts
          controlStates } ∧
        ((facts = db.recoveryFacts ∧ ∃ fact ∈ facts, fact.snapshot = snapshot) ∨
          db.recoveryFacts.insert? ⟨snapshot, now⟩ = some facts) ∧
        (∀ row ∈ receipts, row ∈ db.effectReceipts ∨
          row.snapshotId = snapshot.snapshotId ∧ row.receipt ∈ effectReceipts) ∧
        db.controlStates.KeysWithin controlStates [snapshot.agentRunId] ∧
        RowsAdvance db.controlStates controlStates := by
  unfold saveRecoveryFacts at h
  split at h
  · cases h
  rename_i hvalid
  split at h
  · cases h
  rename_i hobject
  simp only [Bool.not_eq_true', Bool.not_eq_false, validRecoveryFacts, Bool.and_eq_true,
    List.all_eq_true] at hvalid
  rw [Bool.not_eq_true', Bool.not_eq_false, Option.any_eq_true] at hobject
  obtain ⟨object, hfound, -⟩ := hobject
  refine ⟨hvalid.2, ⟨object, Table.find?_eq_some.mp hfound⟩, ?_⟩
  simp only [bind_eq_ok] at h
  obtain ⟨facts, hfacts, db₁, hreceipts, h⟩ := h
  obtain ⟨receipts, rfl, hrows⟩ := insertReceipts_ok hreceipts
  split at h
  · cases h
  obtain ⟨controlStates, rfl, hkeys, hadvance⟩ := recordSnapshot_ok h
  exact ⟨facts, receipts, controlStates, rfl, insertRecoveryFact_ok hfacts, hrows, hkeys,
    hadvance⟩

theorem recordRuntimeRunning_ok {agentRunId controllerId : String} {leaseDurationMs : Nat}
    (h : recordRuntimeRunning agentRunId controllerId leaseDurationMs now db = .ok db') :
    ∃ controlStates, db' = { db with controlStates } ∧
      db.controlStates.KeysWithin controlStates [agentRunId] ∧
      RowsAdvance db.controlStates controlStates := by
  unfold recordRuntimeRunning at h
  split at h
  · simp only [bind_eq_ok, orUnavailable_eq_ok] at h
    obtain ⟨controlStates, hinsert, h⟩ := h
    cases h
    exact ⟨controlStates, rfl, .insert hinsert, .insert hinsert⟩
  · rename_i row hrow
    split at h
    · rename_i hadmits
      cases h
      refine ⟨_, rfl, .update _ _ _, .update hrow ?_⟩
      simp only [ControlState.admitsRunning, Bool.and_eq_true, decide_eq_true_eq] at hadmits
      rw [hadmits.1]
      rfl
    · cases h

theorem claimRuntimeResume_ok {agentRunId snapshotId controllerId : String}
    {leaseDurationMs : Nat} {claim : ControlClaim}
    (h : claimRuntimeResume agentRunId snapshotId controllerId leaseDurationMs now db =
      .ok (claim, db')) :
    ∃ controlStates, db' = { db with controlStates } ∧
      db.controlStates.KeysWithin controlStates [] ∧
      RowsAdvance db.controlStates controlStates := by
  unfold claimRuntimeResume at h
  split at h
  · cases h
  rename_i row hrow
  repeat' split at h
  all_goals cases h
  · exact ⟨_, rfl, .refl _ _, .refl _⟩
  · exact ⟨_, rfl, .refl _ _, .refl _⟩
  · exact ⟨_, rfl, .refl _ _, .refl _⟩
  · exact ⟨_, rfl, .refl _ _, .refl _⟩
  · exact ⟨_, rfl, .refl _ _, .refl _⟩
  · rename_i hopen
    refine ⟨_, rfl, .update _ _ _, .update hrow ?_⟩
    cases hstate : row.state <;>
      simp_all [RuntimeControlState.isPaused, RuntimeControlState.isTerminal]

theorem completeRuntimeControl_ok {agentRunId controllerId : String}
    {expectedSnapshotId nextSnapshotId : Option String} {state : RuntimeControlState}
    {runEvents : List RunEvent}
    (h : completeRuntimeControl agentRunId controllerId expectedSnapshotId nextSnapshotId state
      runEvents now db = .ok db') :
    ∃ controlStates, db' = { db with controlStates } ∧
      db.controlStates.KeysWithin controlStates [] ∧
      RowsAdvance db.controlStates controlStates := by
  unfold completeRuntimeControl at h
  split at h
  · cases h
  rename_i row hrow
  split at h
  · rename_i hcompletable
    split at h
    · cases h
    · cases h
      refine ⟨_, rfl, .update _ _ _, .update hrow ?_⟩
      simp only [ControlState.completableBy, Bool.and_eq_true, decide_eq_true_eq] at hcompletable
      rw [hcompletable.1.2]
      rfl
  · split at h
    · cases h
      exact ⟨_, rfl, .refl _ _, .refl _⟩
    · cases h

theorem claimRuntimeCancel_ok {agentRunId cancellationId : String} {runEvents : List RunEvent}
    {claim : ControlClaim}
    (h : claimRuntimeCancel agentRunId cancellationId runEvents now db = .ok (claim, db')) :
    ∃ controlStates, db' = { db with controlStates } ∧
      db.controlStates.KeysWithin controlStates [] ∧
      RowsAdvance db.controlStates controlStates := by
  unfold claimRuntimeCancel at h
  split at h
  · cases h
  rename_i row hrow
  split at h
  · cases h
    exact ⟨_, rfl, .refl _ _, .refl _⟩
  · rename_i hlive
    split at h
    · cases h
      exact ⟨_, rfl, .refl _ _, .refl _⟩
    · rename_i hopen
      cases h
      refine ⟨_, rfl, .update _ _ _, .update hrow ?_⟩
      cases hstate : row.state <;> simp_all [RuntimeControlState.isTerminal]

theorem appendEgressRecord_ok {record : EgressRecord}
    (h : appendEgressRecord record db = .ok db') :
    ∃ egressRecords, db.egressRecords.insert? record = some egressRecords ∧
      db' = { db with egressRecords } := by
  simp only [appendEgressRecord, bind_eq_ok, orUnavailable_eq_ok] at h
  obtain ⟨egressRecords, hinsert, h⟩ := h
  cases h
  exact ⟨egressRecords, hinsert, rfl⟩

end Specs

end ChoiceMind.TaskPersistence
