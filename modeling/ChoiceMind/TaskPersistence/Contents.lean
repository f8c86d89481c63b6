import ChoiceMind.TaskPersistence.SavedFacts

/-!
# Contents under their digests

Objects are shared by digest and collected by a purge when nothing refers to them any more.
What a binding or a recovery fact refers to stays stored and is read back as it was put.
-/

namespace ChoiceMind.TaskPersistence

set_option autoImplicit false

open Contracts Transition

variable {env : Environment} {db db' : Store} {now : Instant}

/-! ### The calls that write contents -/

/-- The contents and what refers to them do not change. -/
structure SameContents (db db' : Store) : Prop where
  snapshotObjects : db'.snapshotObjects = db.snapshotObjects
  recoveryFacts : db'.recoveryFacts = db.recoveryFacts
  effectResultObjects : db'.effectResultObjects = db.effectResultObjects
  effectResultBindings : db'.effectResultBindings = db.effectResultBindings

theorem SameRecovery.contents (h : SameRecovery db db') : SameContents db db' :=
  ⟨h.snapshotObjects, h.recoveryFacts, h.effectResultObjects, h.effectResultBindings⟩

/-- What an action does to the contents. -/
inductive ContentMove (env : Environment) (now : Instant) (db : Store) : Action → Store → Prop
  | quiet {action : Action} {db' : Store} (hsame : SameContents db db') :
    ContentMove env now db action db'
  | putRawSnapshot {payload : String} {reference : RawRuntimeSnapshotRef} {db' : Store}
    (hput : putRawSnapshot env payload now db = .ok (reference, db')) :
    ContentMove env now db (.putRawSnapshot payload) db'
  | putEffectResult {identity : EffectResultIdentity} {payload : String}
    {reference : EffectResultRef} {db' : Store}
    (hput : putEffectResult env identity payload now db = .ok (reference, db')) :
    ContentMove env now db (.putEffectResult identity payload) db'
  | saveRecoveryFacts {snapshot : RuntimeSnapshot} {receipts : List EffectReceipt} {db' : Store}
    (hsave : saveRecoveryFacts env snapshot receipts now db = .ok db') :
    ContentMove env now db (.saveRecoveryFacts snapshot receipts) db'
  | purge (ownerUserId : String) :
    ContentMove env now db (.purgePrivateDataForOwner ownerUserId) (db.erased env ownerUserId)

theorem perform_content {action : Action} {reply : Reply}
    (h : perform env now db action = .ok (reply, db')) : ContentMove env now db action db' := by
  cases action with
  | purgePrivateDataForOwner ownerUserId =>
    simp only [perform, bind_eq_ok] at h
    obtain ⟨⟨result, _⟩, hpurge, h⟩ := h
    cases h
    rw [purgePrivateDataForOwner_ok hpurge]
    exact .purge ownerUserId
  | putRawSnapshot payload =>
    simp only [perform, bind_eq_ok] at h
    obtain ⟨⟨reference, _⟩, hput, h⟩ := h
    cases h
    exact .putRawSnapshot hput
  | putEffectResult identity payload =>
    simp only [perform, bind_eq_ok] at h
    obtain ⟨⟨reference, _⟩, hput, h⟩ := h
    cases h
    exact .putEffectResult hput
  | saveRecoveryFacts snapshot effectReceipts =>
    simp only [perform, bind_eq_ok] at h
    obtain ⟨_, hsave, h⟩ := h
    cases h
    exact .saveRecoveryFacts hsave
  | publishNext retryDelayMs republishDelayMs delivered skipped =>
    simp only [perform] at h
    cases h
    obtain ⟨outbox, hframe, -⟩ :=
      publishNext_frame env retryDelayMs republishDelayMs delivered skipped now db
    rw [hframe]
    exact .quiet ⟨rfl, rfl, rfl, rfl⟩
  | deleteEncryptedCredential key =>
    cases h
    exact .quiet ⟨rfl, rfl, rfl, rfl⟩
  | saveEvidence row =>
    cases h
    obtain ⟨evidenceIndex, hframe, -⟩ := saveEvidence_eq row db
    rw [hframe]
    exact .quiet ⟨rfl, rfl, rfl, rfl⟩
  | skipCursors count =>
    cases h
    exact .quiet ⟨rfl, rfl, rfl, rfl⟩
  | submit command ownerUserId =>
    simp only [perform, bind_eq_ok] at h
    obtain ⟨⟨snapshot, _⟩, hsubmit, h⟩ := h
    cases h
    exact .quiet (submit_same hsubmit).contents
  | claimNext operationId workerId leaseDurationMs =>
    simp only [perform, bind_eq_ok] at h
    obtain ⟨⟨result, _⟩, hclaim, h⟩ := h
    cases h
    exact .quiet (claimNext_same hclaim).contents
  | claimNextRuntimeControl workerId leaseDurationMs skipped =>
    simp only [perform, bind_eq_ok] at h
    obtain ⟨⟨result, _⟩, hclaim, h⟩ := h
    cases h
    exact .quiet (claimNextRuntimeControl_same hclaim).contents
  | complete operationId workerId outcome controlRequestId =>
    simp only [perform, bind_eq_ok] at h
    obtain ⟨⟨completion, _⟩, hcomplete, h⟩ := h
    cases h
    exact .quiet (complete_same hcomplete).contents
  | requestRuntimeResume input =>
    simp only [perform, bind_eq_ok] at h
    obtain ⟨⟨status, _⟩, hrequest, h⟩ := h
    cases h
    exact .quiet (requestRuntimeResume_same hrequest).contents
  | requestRuntimeCancel input =>
    simp only [perform, bind_eq_ok] at h
    obtain ⟨⟨status, _⟩, hrequest, h⟩ := h
    cases h
    rcases requestRuntimeCancel_ok hrequest with rfl | ⟨_, _, _, -, -, -, -, happends⟩
    · exact .quiet ⟨rfl, rfl, rfl, rfl⟩
    · obtain ⟨_, _, _, _, rfl, -⟩ := happends
      exact .quiet ⟨rfl, rfl, rfl, rfl⟩
  | recordRuntimeRunning agentRunId controllerId leaseDurationMs =>
    simp only [perform, bind_eq_ok] at h
    obtain ⟨_, hrecord, h⟩ := h
    cases h
    obtain ⟨_, rfl, -⟩ := recordRuntimeRunning_ok hrecord
    exact .quiet ⟨rfl, rfl, rfl, rfl⟩
  | claimRuntimeResume agentRunId snapshotId controllerId leaseDurationMs =>
    simp only [perform, bind_eq_ok] at h
    obtain ⟨⟨claim, _⟩, hclaim, h⟩ := h
    cases h
    obtain ⟨_, rfl, -⟩ := claimRuntimeResume_ok hclaim
    exact .quiet ⟨rfl, rfl, rfl, rfl⟩
  | completeRuntimeControl agentRunId controllerId expected next state runEvents =>
    simp only [perform, bind_eq_ok] at h
    obtain ⟨_, hcomplete, h⟩ := h
    cases h
    obtain ⟨_, rfl, -⟩ := completeRuntimeControl_ok hcomplete
    exact .quiet ⟨rfl, rfl, rfl, rfl⟩
  | claimRuntimeCancel agentRunId cancellationId runEvents =>
    simp only [perform, bind_eq_ok] at h
    obtain ⟨⟨claim, _⟩, hclaim, h⟩ := h
    cases h
    obtain ⟨_, rfl, -⟩ := claimRuntimeCancel_ok hclaim
    exact .quiet ⟨rfl, rfl, rfl, rfl⟩
  | appendEgressRecord record =>
    simp only [perform, bind_eq_ok] at h
    obtain ⟨_, happend, h⟩ := h
    cases h
    obtain ⟨_, -, rfl⟩ := appendEgressRecord_ok happend
    exact .quiet ⟨rfl, rfl, rfl, rfl⟩
  | appendAuditRecord record =>
    simp only [perform, bind_eq_ok] at h
    obtain ⟨_, happend, h⟩ := h
    cases h
    obtain ⟨_, -, rfl⟩ := appendAuditRecord_ok happend
    exact .quiet ⟨rfl, rfl, rfl, rfl⟩
  | saveEncryptedCredential key envelope =>
    simp only [perform, bind_eq_ok] at h
    obtain ⟨_, hsave, h⟩ := h
    cases h
    obtain ⟨_, rfl, -⟩ := saveEncryptedCredential_ok hsave
    exact .quiet ⟨rfl, rfl, rfl, rfl⟩

theorem step_content {action : Action} {reply : Reply}
    (h : step env db (now, action) = some (reply, db')) : ContentMove env now db action db' := by
  rcases step_cases h with hperform | ⟨-, rfl⟩
  · exact perform_content hperform
  · exact .quiet ⟨rfl, rfl, rfl, rfl⟩

/-! ### No reference is dangling -/

section Sound

/-- Objects are stored under the digests of their payloads. -/
structure Addressed (env : Environment) (objectKey : String → String)
    (objects : Table ContentObject.digest) : Prop where
  digest : ∀ object ∈ objects, object.digest = env.sha256 object.payload
  keyed : DigestKeyed objectKey objects

/-- What recovery facts and bindings refer to is stored. -/
structure ContentsSound (env : Environment) (db : Store) : Prop where
  snapshots : Addressed env runtimeSnapshotObjectKey db.snapshotObjects
  results : Addressed env effectResultObjectKey db.effectResultObjects
  facts : ∀ fact ∈ db.recoveryFacts, ∃ object ∈ db.snapshotObjects,
    object.digest = fact.rawSnapshotDigest
  bindings : ∀ binding ∈ db.effectResultBindings, ∃ object ∈ db.effectResultObjects,
    object.digest = binding.digest ∧ object.objectKey = binding.objectKey

theorem contentsSound_empty : ContentsSound env Store.empty := by
  refine ⟨⟨?_, ?_⟩, ⟨?_, ?_⟩, ?_, ?_⟩ <;> intro row hrow <;> cases hrow

section Put
variable {objectKey : String → String} {payload : String}
  {objects objects' : Table ContentObject.digest}

theorem Addressed.put (h : Addressed env objectKey objects)
    (hput : putContent env objectKey payload now objects = .ok objects') :
    Addressed env objectKey objects' := by
  rcases putContent_ok hput with rfl | hinsert
  · exact h
  · constructor
    · intro object hobject
      rcases (Table.mem_insert? hinsert).mp hobject with hold | rfl
      · exact h.digest object hold
      · rfl
    · intro object hobject
      rcases (Table.mem_insert? hinsert).mp hobject with hold | rfl
      · exact h.keyed object hold
      · rfl

theorem Addressed.deleteWhere (h : Addressed env objectKey objects)
    (condition : ContentObject → Bool) : Addressed env objectKey (objects.deleteWhere condition) :=
  ⟨fun object hobject => h.digest object (Table.mem_deleteWhere.mp hobject).1,
    fun object hobject => h.keyed object (Table.mem_deleteWhere.mp hobject).1⟩

theorem mem_putContent (hput : putContent env objectKey payload now objects = .ok objects')
    {object : ContentObject} (hobject : object ∈ objects) : object ∈ objects' := by
  rcases putContent_ok hput with rfl | hinsert
  · exact hobject
  · exact (Table.mem_insert? hinsert).mpr (.inl hobject)

/-- What was put is stored under its digest. -/
theorem exists_of_putContent
    (hput : putContent env objectKey payload now objects = .ok objects') :
    ∃ object ∈ objects', object.digest = env.sha256 payload ∧
      object.objectKey = objectKey (env.sha256 payload) ∧ object.payload = payload := by
  unfold putContent at hput
  dsimp only at hput
  split at hput
  · have hinsert := orUnavailable_eq_ok.mp hput
    exact ⟨_, (Table.mem_insert? hinsert).mpr (.inr rfl), rfl, rfl, rfl⟩
  · rename_i stored hstored
    split at hput
    · rename_i hsame
      cases hput
      obtain ⟨hmem, hdigest⟩ := Table.find?_eq_some.mp hstored
      exact ⟨stored, hmem, hdigest, hsame⟩
    · cases hput

end Put

theorem ContentsSound.of_same (h : ContentsSound env db) (hsame : SameContents db db') :
    ContentsSound env db' where
  snapshots := by
    rw [hsame.snapshotObjects]
    exact h.snapshots
  results := by
    rw [hsame.effectResultObjects]
    exact h.results
  facts := by
    rw [hsame.recoveryFacts, hsame.snapshotObjects]
    exact h.facts
  bindings := by
    rw [hsame.effectResultBindings, hsame.effectResultObjects]
    exact h.bindings

theorem ContentsSound.putEffectResult (h : ContentsSound env db) {identity : EffectResultIdentity}
    {payload : String} {reference : EffectResultRef}
    (hput : putEffectResult env identity payload now db = .ok (reference, db')) :
    ContentsSound env db' := by
  obtain ⟨objects, bindings, hobjects, hbind, rfl⟩ := putEffectResult_ok hput
  refine ⟨h.snapshots, h.results.put hobjects, h.facts, ?_⟩
  have hold : ∀ binding ∈ db.effectResultBindings, ∃ object ∈ objects,
      object.digest = binding.digest ∧ object.objectKey = binding.objectKey := by
    intro binding hbinding
    obtain ⟨object, hobject, hsame⟩ := h.bindings binding hbinding
    exact ⟨object, mem_putContent hobjects hobject, hsame⟩
  rcases bindEffectResult_ok hbind with ⟨rfl, -⟩ | hinsert
  · exact hold
  · intro binding hbinding
    rcases (Table.mem_insert? hinsert).mp hbinding with hbefore | rfl
    · exact hold binding hbefore
    · obtain ⟨object, hobject, hdigest, hkey, -⟩ := exists_of_putContent hobjects
      exact ⟨object, hobject, hdigest, hkey⟩

theorem ContentsSound.saveRecoveryFacts (h : ContentsSound env db) {snapshot : RuntimeSnapshot}
    {receipts : List EffectReceipt}
    (hsave : saveRecoveryFacts env snapshot receipts now db = .ok db') :
    ContentsSound env db' := by
  obtain ⟨-, ⟨object, hobject, hdigest⟩, facts, rows, controlStates, rfl, hfacts, -⟩ :=
    saveRecoveryFacts_ok hsave
  refine ⟨h.snapshots, h.results, ?_, h.bindings⟩
  intro fact hfact
  rcases hfacts with ⟨rfl, -⟩ | hinsert
  · exact h.facts fact hfact
  · rcases (Table.mem_insert? hinsert).mp hfact with hold | rfl
    · exact h.facts fact hold
    · exact ⟨object, hobject, hdigest⟩

/-- A purge deletes only objects that nothing refers to any more. -/
theorem ContentsSound.erased (h : ContentsSound env db) (ownerUserId : String) :
    ContentsSound env (db.erased env ownerUserId) where
  snapshots := h.snapshots.deleteWhere _
  results := h.results.deleteWhere _
  facts := by
    intro fact hfact
    have hkept : fact ∈ db.recoveryFacts ∧ _ := Table.mem_deleteWhere.mp hfact
    obtain ⟨object, hobject, hdigest⟩ := h.facts fact hkept.1
    refine ⟨object, Table.mem_deleteWhere.mpr ⟨hobject, ?_⟩, hdigest⟩
    rw [Bool.and_eq_false_iff, Bool.not_eq_false', List.any_eq_true]
    exact .inr ⟨fact, hfact, decide_eq_true hdigest.symm⟩
  bindings := by
    intro binding hbinding
    have hkept : binding ∈ db.effectResultBindings ∧ _ := Table.mem_deleteWhere.mp hbinding
    obtain ⟨object, hobject, hdigest, hkey⟩ := h.bindings binding hkept.1
    refine ⟨object, Table.mem_deleteWhere.mpr ⟨hobject, ?_⟩, hdigest, hkey⟩
    rw [Bool.and_eq_false_iff, Bool.not_eq_false', List.any_eq_true]
    exact .inr ⟨binding, hbinding, decide_eq_true hdigest.symm⟩

theorem ContentsSound.step (h : ContentsSound env db) {label : Instant × Action} {reply : Reply}
    (hstep : step env db label = some (reply, db')) : ContentsSound env db' := by
  obtain ⟨now, action⟩ := label
  cases step_content hstep with
  | quiet hsame => exact h.of_same hsame
  | putRawSnapshot hput =>
    obtain ⟨objects, hobjects, rfl⟩ := putRawSnapshot_ok hput
    refine ⟨h.snapshots.put hobjects, h.results, ?_, h.bindings⟩
    intro fact hfact
    obtain ⟨object, hobject, hdigest⟩ := h.facts fact hfact
    exact ⟨object, mem_putContent hobjects hobject, hdigest⟩
  | putEffectResult hput => exact h.putEffectResult hput
  | saveRecoveryFacts hsave => exact h.saveRecoveryFacts hsave
  | purge ownerUserId => exact h.erased ownerUserId

theorem contentsSound_of_run {es : List (Entry Store (Instant × Action) Reply)}
    (h : Run (TaskPersistence.step env) Store.empty es db) : ContentsSound env db := by
  refine h.invariant (G := fun _ _ => True) ?_ (fun _ _ => trivial) contentsSound_empty
  intro s t a r hs _ hstep
  exact hs.step hstep

end Sound

/-! ### What a reference loads -/

section Loads

/-- A purge that the label asks for is one of another owner than the run's. -/
def Spares (agentRunId : String) (db : Store) (label : Instant × Action) : Prop :=
  ∀ ownerUserId, label.2 = .purgePrivateDataForOwner ownerUserId →
    db.runOwner agentRunId ≠ some ownerUserId

/-- A binding with the object that it refers to. -/
structure Bound (binding : EffectResultBinding) (object : ContentObject) (db : Store) : Prop where
  bound : binding ∈ db.effectResultBindings
  stored : object ∈ db.effectResultObjects
  digest : object.digest = binding.digest

/-- A recovery fact with the object that it refers to. -/
structure Captured (fact : RecoveryFact) (object : ContentObject) (db : Store) : Prop where
  saved : fact ∈ db.recoveryFacts
  stored : object ∈ db.snapshotObjects
  digest : object.digest = fact.rawSnapshotDigest

section Kept
variable {agentRunId ownerUserId : String} {label : Instant × Action} {reply : Reply}
  {binding : EffectResultBinding} {fact : RecoveryFact} {object : ContentObject}

theorem Spares.notMem_scope (h : Spares agentRunId db (now, .purgePrivateDataForOwner ownerUserId))
    (hregistered : Registered db) : agentRunId ∉ (db.purgeScope ownerUserId).agentRunIds :=
  fun hin => h ownerUserId rfl (hregistered.runOwner_of_mem_scope hin)

theorem Bound.of_same (h : Bound binding object db) (hsame : SameContents db db') :
    Bound binding object db' := by
  constructor
  · rw [hsame.effectResultBindings]
    exact h.bound
  · rw [hsame.effectResultObjects]
    exact h.stored
  · exact h.digest

/-- The object stays as long as its binding does. -/
theorem Bound.erased (h : Bound binding object db)
    (hout : binding.identity.agentRunId ∉ (db.purgeScope ownerUserId).agentRunIds) :
    Bound binding object (db.erased env ownerUserId) := by
  have hbinding : binding ∈ (db.erased env ownerUserId).effectResultBindings :=
    Table.mem_deleteWhere.mpr ⟨h.bound, decide_eq_false hout⟩
  refine ⟨hbinding, Table.mem_deleteWhere.mpr ⟨h.stored, ?_⟩, h.digest⟩
  rw [Bool.and_eq_false_iff, Bool.not_eq_false', List.any_eq_true]
  exact .inr ⟨binding, hbinding, decide_eq_true h.digest.symm⟩

theorem Bound.step (h : Bound binding object db) (hregistered : Registered db)
    (hspares : Spares binding.identity.agentRunId db label)
    (hstep : step env db label = some (reply, db')) : Bound binding object db' := by
  obtain ⟨now, action⟩ := label
  cases step_content hstep with
  | quiet hsame => exact h.of_same hsame
  | putRawSnapshot hput =>
    obtain ⟨objects, -, rfl⟩ := putRawSnapshot_ok hput
    exact ⟨h.bound, h.stored, h.digest⟩
  | putEffectResult hput =>
    obtain ⟨objects, bindings, hobjects, hbind, rfl⟩ := putEffectResult_ok hput
    refine ⟨?_, mem_putContent hobjects h.stored, h.digest⟩
    rcases bindEffectResult_ok hbind with ⟨rfl, -⟩ | hinsert
    · exact h.bound
    · exact (Table.mem_insert? hinsert).mpr (.inl h.bound)
  | saveRecoveryFacts hsave =>
    obtain ⟨-, -, facts, rows, controlStates, rfl, -⟩ := saveRecoveryFacts_ok hsave
    exact ⟨h.bound, h.stored, h.digest⟩
  | purge ownerUserId => exact h.erased (hspares.notMem_scope hregistered)

theorem Captured.of_same (h : Captured fact object db) (hsame : SameContents db db') :
    Captured fact object db' := by
  constructor
  · rw [hsame.recoveryFacts]
    exact h.saved
  · rw [hsame.snapshotObjects]
    exact h.stored
  · exact h.digest

theorem Captured.erased (h : Captured fact object db)
    (hout : fact.agentRunId ∉ (db.purgeScope ownerUserId).agentRunIds) :
    Captured fact object (db.erased env ownerUserId) := by
  have hfact : fact ∈ (db.erased env ownerUserId).recoveryFacts := by
    refine Table.mem_deleteWhere.mpr ⟨h.saved, decide_eq_false ?_⟩
    intro hin
    obtain ⟨other, hother, hrun, hid⟩ := mem_scope_snapshotIds.mp hin
    rw [Table.eq_of_key_eq hother h.saved hid] at hrun
    exact hout hrun
  refine ⟨hfact, Table.mem_deleteWhere.mpr ⟨h.stored, ?_⟩, h.digest⟩
  rw [Bool.and_eq_false_iff, Bool.not_eq_false', List.any_eq_true]
  exact .inr ⟨fact, hfact, decide_eq_true h.digest.symm⟩

theorem Captured.step (h : Captured fact object db) (hregistered : Registered db)
    (hspares : Spares fact.agentRunId db label)
    (hstep : step env db label = some (reply, db')) : Captured fact object db' := by
  obtain ⟨now, action⟩ := label
  cases step_content hstep with
  | quiet hsame => exact h.of_same hsame
  | putRawSnapshot hput =>
    obtain ⟨objects, hobjects, rfl⟩ := putRawSnapshot_ok hput
    exact ⟨h.saved, mem_putContent hobjects h.stored, h.digest⟩
  | putEffectResult hput =>
    obtain ⟨objects, bindings, -, -, rfl⟩ := putEffectResult_ok hput
    exact ⟨h.saved, h.stored, h.digest⟩
  | saveRecoveryFacts hsave =>
    obtain ⟨-, -, facts, rows, controlStates, rfl, hfacts, -⟩ := saveRecoveryFacts_ok hsave
    refine ⟨?_, h.stored, h.digest⟩
    rcases hfacts with ⟨rfl, -⟩ | hinsert
    · exact h.saved
    · exact (Table.mem_insert? hinsert).mpr (.inl h.saved)
  | purge ownerUserId => exact h.erased (hspares.notMem_scope hregistered)

theorem Bound.run {es : List (Entry Store (Instant × Action) Reply)}
    (h : Bound binding object db) (hregistered : Registered db)
    (hrun : Run (TaskPersistence.step env) db es db')
    (hguard : Guarded (Spares binding.identity.agentRunId) es) : Bound binding object db' := by
  have hinv : Registered db' ∧ Bound binding object db' := by
    apply hrun.invariant ?_ hguard ⟨hregistered, h⟩
    intro s t a r hs hspares hstep
    exact ⟨hs.1.change (step_change hstep), hs.2.step hs.1 hspares hstep⟩
  exact hinv.2

theorem Captured.run {es : List (Entry Store (Instant × Action) Reply)}
    (h : Captured fact object db) (hregistered : Registered db)
    (hrun : Run (TaskPersistence.step env) db es db')
    (hguard : Guarded (Spares fact.agentRunId) es) : Captured fact object db' := by
  have hinv : Registered db' ∧ Captured fact object db' := by
    apply hrun.invariant ?_ hguard ⟨hregistered, h⟩
    intro s t a r hs hspares hstep
    exact ⟨hs.1.change (step_change hstep), hs.2.step hs.1 hspares hstep⟩
  exact hinv.2

end Kept

/-- The text that is hashed and stored for a payload. -/
def Environment.payloadText (env : Environment) (payload : Json Rat) : String :=
  Contracts.canonicalize env.numberText payload

/-- A value was read, and it is the given one as JSON. -/
def Loads (env : Environment) (payload : Json Rat)
    (result : Except PersistenceError (Option String)) : Prop :=
  ∃ text, result = .ok (some text) ∧
    ∀ value : Json Rat, value.Distinct → (env.payloadText value = text ↔ value.Same payload)

variable {payload : Json Rat}

theorem loads_payloadText (hpayload : payload.Distinct) :
    Loads env payload (.ok (some (env.payloadText payload))) := by
  refine ⟨_, rfl, ?_⟩
  intro value hvalue
  exact canonicalize_eq_iff hvalue hpayload

theorem loadEffectResult_of_bound {binding : EffectResultBinding} {object : ContentObject}
    {reference : EffectResultRef} (h : Bound binding object db)
    (hidentity : binding.identity = bindingIdentity reference)
    (hdigest : binding.digest = reference.digest)
    (hkey : binding.objectKey = effectResultObjectKey reference.digest)
    (hobject : object.objectKey = binding.objectKey)
    (hreference : reference.objectKey = effectResultObjectKey reference.digest)
    (hhash : env.sha256 object.payload = reference.digest)
    (hformat : isSha256Digest reference.digest = true) :
    loadEffectResult env reference db = .ok (some object.payload) := by
  have hbinding : db.effectResultBindings.find? (bindingIdentity reference) = some binding :=
    Table.find?_eq_some.mpr ⟨h.bound, hidentity⟩
  have hstored : db.effectResultObjects.find? reference.digest = some object :=
    Table.find?_eq_some.mpr ⟨h.stored, h.digest.trans hdigest⟩
  have hkeys : object.objectKey = effectResultObjectKey reference.digest := hobject.trans hkey
  simp [loadEffectResult, Store.hasBinding, hbinding, hstored, hformat, hreference, hdigest, hkey,
    hkeys, hhash, Option.filter_some]

theorem loadRawSnapshot_of_captured {object : ContentObject} {digest : String}
    (hobject : object ∈ db.snapshotObjects) (hdigest : object.digest = digest)
    (hkey : object.objectKey = runtimeSnapshotObjectKey digest)
    (hhash : env.sha256 object.payload = digest) (hformat : isSha256Digest digest = true) :
    loadRawSnapshot env ⟨digest, runtimeSnapshotObjectKey digest⟩ db =
      .ok (some object.payload) := by
  have hstored : db.snapshotObjects.find? digest = some object :=
    Table.find?_eq_some.mpr ⟨hobject, hdigest⟩
  simp [loadRawSnapshot, hstored, hformat, hkey, hhash, Option.filter_some]

/-- The reference that a put returns, and what it leaves bound. -/
theorem bound_of_putEffectResult {identity : EffectResultIdentity} {text : String}
    {reference : EffectResultRef}
    (hput : putEffectResult env identity text now db = .ok (reference, db')) :
    reference.digest = env.sha256 text ∧
      reference.objectKey = effectResultObjectKey reference.digest ∧
      bindingIdentity reference = identity ∧
      ∃ binding object, Bound binding object db' ∧ binding.identity = identity ∧
        binding.digest = reference.digest ∧ binding.objectKey = reference.objectKey ∧
        object.objectKey = reference.objectKey ∧ object.payload = text := by
  unfold putEffectResult at hput
  split at hput
  · cases hput
  simp only [bind_eq_ok] at hput
  obtain ⟨objects, hobjects, bindings, hbind, hput⟩ := hput
  cases hput
  obtain ⟨object, hobject, hdigest, hkey, hpayload⟩ := exists_of_putContent hobjects
  refine ⟨rfl, rfl, rfl, ?_⟩
  unfold bindEffectResult at hbind
  split at hbind
  · have hinsert := orUnavailable_eq_ok.mp hbind
    exact ⟨_, object, ⟨(Table.mem_insert? hinsert).mpr (.inr rfl), hobject, hdigest⟩, rfl, rfl,
      rfl, hkey, hpayload⟩
  · rename_i stored hstored
    split at hbind
    · rename_i hsame
      cases hbind
      obtain ⟨hmem, hidentity⟩ := Table.find?_eq_some.mp hstored
      exact ⟨stored, object, ⟨hmem, hobject, hdigest.trans hsame.1.symm⟩, hidentity, hsame.1,
        hsame.2, hkey, hpayload⟩
    · cases hbind

end Loads

def oneDigest : String := String.ofList (List.replicate 64 '1')

/-- The text of one payload has a digest of its own. -/
def twoDigests (text : String) : String :=
  if text = sampleEnv.payloadText (.string "result") then zeroDigest else oneDigest

def twoDigestsEnv : Environment := { sampleEnv with sha256 := twoDigests }

theorem twoDigests_format (text : String) : isSha256Digest (twoDigests text) = true := by
  unfold twoDigests
  split <;> decide

theorem twoDigests_injective (text : String)
    (h : twoDigests text = twoDigests (sampleEnv.payloadText (.string "result"))) :
    text = sampleEnv.payloadText (.string "result") := by
  by_contra htext
  have hown : twoDigests (sampleEnv.payloadText (.string "result")) = zeroDigest := if_pos rfl
  have hother : twoDigests text = oneDigest := if_neg htext
  rw [hown, hother] at h
  exact absurd h (by decide)

def sampleEffect : EffectResultIdentity := ⟨"task", "run", "checkpoint", "effect"⟩

end ChoiceMind.TaskPersistence
