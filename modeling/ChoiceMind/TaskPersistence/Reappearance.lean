import ChoiceMind.TaskPersistence.RecoveryRows
import ChoiceMind.TaskPersistence.Runs

/-!
# What a purge leaves to running workers

No recovery table refers to the run that it is about, so a worker that still executes a
purged run can write its rows again. Without such writes nothing of the owner comes back.
-/

namespace ChoiceMind.TaskPersistence

set_option autoImplicit false

open Contracts Transition

variable {env : Environment}

/-- Nothing of the owner and of the runs they had in `before`; `raw` tells the raw
snapshots of these runs from other payloads. -/
structure Gone (before : Store) (ownerUserId : String) (raw : String → Bool) (db : Store) :
    Prop where
  controlStates : ∀ row ∈ db.controlStates, before.runOwner row.agentRunId ≠ some ownerUserId
  recoveryFacts : ∀ fact ∈ db.recoveryFacts, before.runOwner fact.agentRunId ≠ some ownerUserId
  effectReceipts : ∀ row ∈ db.effectReceipts,
    before.runOwner row.receipt.agentRunId ≠ some ownerUserId
  effectResultBindings : ∀ row ∈ db.effectResultBindings,
    before.runOwner row.identity.agentRunId ≠ some ownerUserId
  egressRecords : ∀ row ∈ db.egressRecords, row.userId ≠ ownerUserId
  /-- a stored object of these runs is one that somebody else's row refers to -/
  snapshotObjects : ∀ object ∈ db.snapshotObjects, raw object.payload = true →
    ∃ fact ∈ db.recoveryFacts, fact.rawSnapshotDigest = object.digest
  effectResultObjects : ∀ object ∈ db.effectResultObjects,
    ∃ binding ∈ db.effectResultBindings, binding.digest = object.digest

/-- The action inserts a row about one of these runs or an egress record of the owner. -/
def Action.reinserts (env : Environment) (before : Store) (ownerUserId : String)
    (raw : String → Bool) (db : Store) : Action → Bool
  | .recordRuntimeRunning agentRunId _ _ => before.runOwner agentRunId = some ownerUserId
  | .putEffectResult identity _ => before.runOwner identity.agentRunId = some ownerUserId
  | .saveRecoveryFacts snapshot _ => before.runOwner snapshot.agentRunId = some ownerUserId
  | .putRawSnapshot payload =>
    raw payload &&
      !db.recoveryFacts.rows.any fun fact => fact.rawSnapshotDigest = env.sha256 payload
  | .appendEgressRecord record => record.userId = ownerUserId
  | _ => false

/-- The step inserts such a row and commits. -/
def reappears (env : Environment) (before : Store) (ownerUserId : String)
    (raw : String → Bool) (db : Store) (label : Instant × Action) : Bool :=
  label.2.reinserts env before ownerUserId raw db && (perform env label.1 db label.2).isOk

/-- Every stored raw snapshot of the owner's runs is one that a recovery fact refers to. -/
def rawReferenced (raw : String → Bool) (db : Store) : Bool :=
  db.snapshotObjects.rows.all fun object => !raw object.payload ||
    db.recoveryFacts.rows.any fun fact => fact.rawSnapshotDigest = object.digest

/-- The step is a purge of the owner that commits. -/
def commitsPurge (ownerUserId : String) (label : Instant × Action) (reply : Reply) : Bool :=
  match label.2, reply with
  | .purgePrivateDataForOwner purged, .purged _ => purged = ownerUserId
  | _, _ => false

/-- What holds from the purge on. -/
structure Vanished (env : Environment) (before : Store) (ownerUserId : String)
    (raw : String → Bool) (db : Store) : Prop where
  gone : Gone before ownerUserId raw db
  filed : Filed db
  operations : ∀ row ∈ db.operations, before.runOwner row.agentRunId ≠ some ownerUserId
  issued : ∀ agentRunId, before.runOwner agentRunId = some ownerUserId →
    Issued env db agentRunId

section Steps
variable {before db db' : Store} {ownerUserId : String} {raw : String → Bool}

theorem rawReferenced_iff :
    rawReferenced raw db = true ↔ ∀ object ∈ db.snapshotObjects, raw object.payload = true →
      ∃ fact ∈ db.recoveryFacts, fact.rawSnapshotDigest = object.digest := by
  unfold rawReferenced
  simp only [List.all_eq_true, Bool.or_eq_true, Bool.not_eq_true', List.any_eq_true,
    decide_eq_true_eq, ← Bool.not_eq_true, imp_iff_not_or]
  exact Iff.rfl

/-- A raw snapshot that a fact referred to survives a purge only if one still does. -/
theorem rawReferenced_erased {purged : String}
    (h : ∀ object ∈ db.snapshotObjects, raw object.payload = true →
      ∃ fact ∈ db.recoveryFacts, fact.rawSnapshotDigest = object.digest) :
    ∀ object ∈ (db.erased env purged).snapshotObjects, raw object.payload = true →
      ∃ fact ∈ (db.erased env purged).recoveryFacts,
        fact.rawSnapshotDigest = object.digest := by
  intro object hobject hraw
  have hold : object ∈ db.snapshotObjects := (Table.mem_deleteWhere.mp hobject).1
  obtain ⟨fact, hfact, hdigest⟩ := h object hold hraw
  rcases fact_kept_or_scoped hfact with hstays | ⟨-, hin⟩
  · exact ⟨fact, hstays, hdigest⟩
  · exact referenced_of_mem hobject (hdigest ▸ hin)

/-- A purge of anybody takes no row back. -/
theorem Gone.erased (h : Gone before ownerUserId raw db) (hfiled : Filed db) {purged : String} :
    Gone before ownerUserId raw (db.erased env purged) where
  controlStates row hrow := h.controlStates row (Table.mem_deleteWhere.mp hrow).1
  recoveryFacts fact hfact := h.recoveryFacts fact (Table.mem_deleteWhere.mp hfact).1
  effectReceipts row hrow := h.effectReceipts row (Table.mem_deleteWhere.mp hrow).1
  effectResultBindings row hrow := h.effectResultBindings row (Table.mem_deleteWhere.mp hrow).1
  egressRecords row hrow := h.egressRecords row (Table.mem_deleteWhere.mp hrow).1
  snapshotObjects := rawReferenced_erased h.snapshotObjects
  effectResultObjects := hfiled.erased.results

/-- A step that reinserts nothing takes no row back. -/
theorem Gone.rows (h : Gone before ownerUserId raw db) (hfiled : Filed db)
    (hoperations : ∀ row ∈ db.operations, before.runOwner row.agentRunId ≠ some ownerUserId)
    {action : Action} (hquiet : action.reinserts env before ownerUserId raw db = false)
    (hrows : RecoveryRows env db action db') : Gone before ownerUserId raw db' where
  controlStates row hrow := by
    rcases hrows.controlStates row hrow with hadded | ⟨old, hold, hsame⟩
    · cases action
      case requestRuntimeCancel input =>
        obtain ⟨operation, hlatest, hrun⟩ := List.mem_map.mp hadded
        rw [← hrun]
        exact hoperations operation (latestOperation_mem (Option.mem_toList.mp hlatest)).1
      case recordRuntimeRunning agentRunId controllerId leaseDurationMs =>
        rw [List.mem_singleton.mp hadded]
        exact of_decide_eq_false hquiet
      case saveRecoveryFacts snapshot receipts =>
        rw [List.mem_singleton.mp hadded]
        exact of_decide_eq_false hquiet
      all_goals cases hadded
    · rw [← hsame]
      exact h.controlStates old hold
  recoveryFacts fact hfact := by
    rcases hrows.recoveryFacts fact hfact with hold | ⟨receipts, rfl⟩
    · exact h.recoveryFacts fact hold
    · exact of_decide_eq_false hquiet
  effectReceipts row hrow := by
    rcases hrows.effectReceipts row hrow with hold | ⟨receipts, fact, -, rfl, -, hrun⟩
    · exact h.effectReceipts row hold
    · rw [hrun]
      exact of_decide_eq_false hquiet
  effectResultBindings row hrow := by
    rcases hrows.effectResultBindings row hrow with hold | ⟨payload, rfl⟩
    · exact h.effectResultBindings row hold
    · exact of_decide_eq_false hquiet
  egressRecords row hrow := by
    rcases hrows.egressRecords row hrow with hold | rfl
    · exact h.egressRecords row hold
    · exact of_decide_eq_false hquiet
  snapshotObjects object hobject hraw := by
    have hreferenced : ∃ fact ∈ db.recoveryFacts, fact.rawSnapshotDigest = object.digest := by
      rcases hrows.snapshotObjects object hobject with hold | ⟨hdigest, rfl⟩
      · exact h.snapshotObjects object hold hraw
      · simp only [Action.reinserts, hraw, Bool.true_and, Bool.not_eq_false',
          List.any_eq_true, decide_eq_true_eq, ← hdigest] at hquiet
        exact hquiet
    obtain ⟨fact, hfact, hdigest⟩ := hreferenced
    exact ⟨fact, hrows.factsKept fact hfact, hdigest⟩
  effectResultObjects := (hfiled.rows hrows).results

theorem Vanished.step (h : Vanished env before ownerUserId raw db) {label : Instant × Action}
    {reply : Reply} (hquiet : reappears env before ownerUserId raw db label = false)
    (hstep : step env db label = some (reply, db')) :
    Vanished env before ownerUserId raw db' := by
  obtain ⟨now, action⟩ := label
  have hchange := step_change hstep
  have hissued := fun agentRunId hof => (h.issued agentRunId hof).mono hchange.drawn_le
  have hoperations : ∀ row ∈ db'.operations,
      before.runOwner row.agentRunId ≠ some ownerUserId := by
    intro row hrow howner
    rcases hchange.operation_run hrow with ⟨old, hold, hsame⟩ | hfresh
    · exact h.operations old hold (hsame ▸ howner)
    · exact (h.issued _ howner).ne_fresh hfresh
  rcases step_cases hstep with hperform | ⟨-, rfl⟩
  · rw [reappears, hperform] at hquiet
    change (action.reinserts env before ownerUserId raw db && true) = false at hquiet
    rw [Bool.and_true] at hquiet
    rcases perform_rows hperform with hrows | ⟨purged, rfl, rfl⟩
    · exact ⟨h.gone.rows h.filed h.operations hquiet hrows, h.filed.rows hrows, hoperations,
        hissued⟩
    · exact ⟨h.gone.erased h.filed, h.filed.erased, hoperations, hissued⟩
  · exact h

/-- What a committed purge leaves, when no raw snapshot of the owner is unreferenced. -/
theorem vanished_of_purge {es : List (Entry Store (Instant × Action) Reply)}
    (h : Run (step env) Store.empty es before) {result : PurgeResult}
    (hcommit : purgePrivateDataForOwner env ownerUserId before = .ok (result, db))
    (hraw : rawReferenced raw before = true) : Vanished env before ownerUserId raw db := by
  have hregistered := registered_of_run h
  have hfiled := filed_of_run h
  have hissued := runsIssued_of_run h
  have hleft : NothingLeft before ownerUserId (before.erased env ownerUserId) :=
    nothingLeft_erased (erasable_of_commit hregistered hcommit) hregistered
  obtain rfl := purgePrivateDataForOwner_ok hcommit
  refine ⟨⟨hleft.controlStates, hleft.recoveryFacts, ?_, hleft.effectResultBindings,
    hleft.egressRecords, rawReferenced_erased (rawReferenced_iff.mp hraw),
    hfiled.erased.results⟩, hfiled.erased, ?_, ?_⟩
  · intro row hrow
    obtain ⟨fact, hfact, -, hrun⟩ := hfiled.erased.receipts row hrow
    rw [hrun]
    exact hleft.recoveryFacts fact hfact
  · intro row hrow howner
    have hold : row ∈ before.operations := (Table.mem_deleteWhere.mp hrow).1
    exact hleft.operations row hrow (hregistered.runOwner hold ▸ howner)
  · intro agentRunId howner
    rw [runOwner_eq, Option.bind_eq_some_iff] at howner
    obtain ⟨operationId, hrun, -⟩ := howner
    obtain ⟨run, hfound, -⟩ := Option.map_eq_some_iff.mp hrun
    obtain ⟨hmem, rfl⟩ := Table.find?_eq_some.mp hfound
    exact hissued run hmem

theorem purge_of_commits {now : Instant} {action : Action} {reply : Reply}
    (hpurge : commitsPurge ownerUserId (now, action) reply = true)
    (hstep : step env db (now, action) = some (reply, db')) :
    ∃ result, purgePrivateDataForOwner env ownerUserId db = .ok (result, db') := by
  unfold commitsPurge at hpurge
  split at hpurge
  · rename_i purged result haction
    cases haction
    obtain rfl : purged = ownerUserId := by simpa using hpurge
    rcases step_cases hstep with hperform | ⟨⟨error, herror⟩, -⟩
    · simp only [perform, bind_eq_ok] at hperform
      obtain ⟨⟨result', _⟩, hcommit, hperform⟩ := hperform
      cases hperform
      exact ⟨_, hcommit⟩
    · cases herror
  · cases hpurge

/-- After a purge that found every raw snapshot referenced, nothing of the owner is stored
as long as no step reinserts it. -/
theorem purged_data_stays_gone {pre post : List (Entry Store (Instant × Action) Reply)}
    {e : Entry Store (Instant × Action) Reply} (raw : String → Bool)
    (h : Run (step env) Store.empty (pre ++ e :: post) db)
    (hpurge : commitsPurge ownerUserId e.label e.reply = true)
    (hraw : rawReferenced raw e.before = true)
    (hquiet : Guarded
      (fun s label => reappears env e.before ownerUserId raw s label = false) post) :
    Gone e.before ownerUserId raw e.after ∧
      ∀ f ∈ post, Gone e.before ownerUserId raw f.after := by
  obtain ⟨before, hpre, hrest⟩ := h.split
  cases hrest with
  | @cons _ after _ label reply _ hstep hpost =>
    obtain ⟨result, hcommit⟩ := purge_of_commits hpurge hstep
    have hvanished := vanished_of_purge hpre hcommit hraw
    refine ⟨hvanished.gone, fun f hf => ?_⟩
    refine (hpost.invariant_entry ?_ hquiet hvanished hf).2.gone
    intro s t a r hs hG hstep
    exact hs.step hG hstep

end Steps

section Sample

/-- The owner is cancelled and purged while a worker executes the run, which pauses then. -/
def purgedWhileRunning : List (Instant × Action) :=
  [(0, .submit (sampleCommand "request") "owner"),
   (1, .claimNext sampleOperation "worker-1" 10),
   (2, .recordRuntimeRunning sampleRun "worker-1" 10),
   (3, .requestRuntimeCancel
     ⟨"account-lifecycle-1", "task", "owner", "account-lifecycle-2", "correlation"⟩),
   (4, .purgePrivateDataForOwner "owner"),
   (5, .putRawSnapshot "raw"),
   (5, .saveRecoveryFacts (sampleSnapshot sampleRun) []),
   (6, .complete sampleOperation "worker-1" (.paused (samplePaused sampleRun)) none)]

/-- A paused task is purged, and somebody else submits and starts one. -/
def purgedWhilePaused : List (Instant × Action) :=
  resumedSchedule ++
    [(6, .purgePrivateDataForOwner "owner"),
     (7, .submit (sampleCommand "other-request") "other"),
     (8, .recordRuntimeRunning "agent-run-other" "worker-2" 10)]

set_option maxRecDepth 4000 in
/-- The worker's recovery fact is stored after the purge and stays when it has finished. -/
theorem paused_run_reappears :
    ∃ pre e post db, Run (step sampleEnv) Store.empty (pre ++ e :: post) db ∧
      clockAdvances (pre ++ e :: post) = true ∧
      commitsPurge "owner" e.label e.reply = true ∧
      ∃ f ∈ post.getLast?, ∀ raw, ¬ Gone e.before "owner" raw f.after := by
  have hexec : (exec (step sampleEnv) Store.empty purgedWhileRunning).any
      (cutAt 4 fun pre e post => clockAdvances (pre ++ e :: post) &&
        commitsPurge "owner" e.label e.reply &&
        post.getLast?.any fun f => f.after.recoveryFacts.rows.any fun fact =>
          decide (e.before.runOwner fact.agentRunId = some "owner")) = true := by
    decide +kernel
  obtain ⟨pre, e, post, db, hrun, hcheck⟩ := exists_cut_of_exec hexec
  rw [Bool.and_eq_true, Bool.and_eq_true, Option.any_eq_true] at hcheck
  obtain ⟨⟨hclock, hpurge⟩, f, hlast, hfacts⟩ := hcheck
  obtain ⟨fact, hfact, howner⟩ := List.any_eq_true.mp hfacts
  exact ⟨pre, e, post, db, hrun, hclock, hpurge, f, hlast, fun raw hgone =>
    hgone.recoveryFacts fact hfact (of_decide_eq_true howner)⟩

set_option maxRecDepth 4000 in
theorem purged_data_stays_gone_paused :
    ∃ pre e post db, Run (step sampleEnv) Store.empty (pre ++ e :: post) db ∧
      commitsPurge "owner" e.label e.reply = true ∧ post.length = 2 ∧
      e.before.recoveryFacts.rows ≠ [] ∧
      ∀ f ∈ post, Gone e.before "owner" (fun payload => payload = "raw") f.after := by
  have hexec : (exec (step sampleEnv) Store.empty purgedWhilePaused).any
      (cutAt 7 fun _ e post => commitsPurge "owner" e.label e.reply &&
        (rawReferenced (fun payload => payload = "raw") e.before &&
          ((post.all fun f => !reappears sampleEnv e.before "owner"
              (fun payload => payload = "raw") f.before f.label) &&
            decide (post.length = 2 ∧ e.before.recoveryFacts.rows ≠ [])))) = true := by
    decide +kernel
  obtain ⟨pre, e, post, db, hrun, hcheck⟩ := exists_cut_of_exec hexec
  rw [Bool.and_eq_true, Bool.and_eq_true, Bool.and_eq_true, List.all_eq_true,
    decide_eq_true_eq] at hcheck
  obtain ⟨hpurge, hraw, hquiet, hlength, hstored⟩ := hcheck
  refine ⟨pre, e, post, db, hrun, hpurge, hlength, hstored,
    (purged_data_stays_gone _ hrun hpurge hraw fun f hf => ?_).2⟩
  simpa using hquiet f hf

end Sample

end ChoiceMind.TaskPersistence
