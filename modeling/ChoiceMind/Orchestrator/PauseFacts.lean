import ChoiceMind.Foundation.Calls
import ChoiceMind.Orchestrator.Adapter
import ChoiceMind.TaskPersistence.FactStore

/-!
# Storing the facts of a pause

When the adapter can turn a paused execution into recovery facts, and what the store holds
then. The snapshot has to be new, and so does every receipt, which is named after its effect
event alone.
-/

namespace ChoiceMind.Orchestrator

set_option autoImplicit false

open Contracts TaskPersistence Transition Calls

variable {env : Environment}

/-! ### A pause and its facts -/

/-- A paused execution that can be turned into recovery facts. -/
structure Pause where
  active : ActiveExecution
  execution : CoreMindExecution
  nativeSnapshot : NativeSnapshot
  journalCheckpoint : RunStateRecord
  parsed : execution.snapshot = some nativeSnapshot
  journaled : execution.runStateRecords.getLast? = some journalCheckpoint

def Pause.of? (active : ActiveExecution) (execution : CoreMindExecution) : Option Pause :=
  match parsed : execution.snapshot, journaled : execution.runStateRecords.getLast? with
  | some nativeSnapshot, some journalCheckpoint =>
    some { active, execution, nativeSnapshot, journalCheckpoint, parsed, journaled }
  | _, _ => none

theorem Pause.of?_eq_some {active : ActiveExecution} {execution : CoreMindExecution}
    {pause : Pause} (h : Pause.of? active execution = some pause) :
    pause.active = active ∧ pause.execution = execution := by
  unfold Pause.of? at h
  split at h
  · cases h
    exact ⟨rfl, rfl⟩
  · cases h

/-- The effect events of a trace with their entries. -/
def effectEvents (trace : List TraceEntry) : List (TraceEntry × EffectReceiptEvent) :=
  trace.filterMap fun entry => entry.event.map fun event => (entry, event)

/-- The state that an effect event is to be recorded with. -/
def recordedState (env : Environment) (command : RunCommand) (checkpointId : String)
    (capture : DraftCapture) (event : EffectReceiptEvent) : EffectReceiptState :=
  match event.status, capture.draft with
  | .notStarted, _ => .notStarted
  | .started, _ => .started
  | .unknown, _ => .unknown
  | .committed, none => .unknown
  | .committed, some draft =>
    if event.tool = "submit_decision_draft" ∧ capture.calls = 1 then
      .committed ⟨env.sha256 (effectResultText env draft),
        effectResultObjectKey (env.sha256 (effectResultText env draft)), command.decisionTaskId,
        command.agentRunId, checkpointId, event.idempotencyKey⟩
    else .unknown

/-- The receipt of an effect event. -/
def receiptOf (env : Environment) (command : RunCommand) (checkpointId : String)
    (capture : DraftCapture) (effect : TraceEntry × EffectReceiptEvent) : EffectReceipt where
  effectReceiptId := effectReceiptId effect.1
  decisionTaskId := command.decisionTaskId
  agentRunId := command.agentRunId
  checkpointId
  effectId := effect.2.idempotencyKey
  recordedAt := effect.1.timestamp
  state := recordedState env command checkpointId capture effect.2

namespace Pause

def envelope (env : Environment) (pause : Pause) : String :=
  recoveryEnvelopeText env pause.nativeSnapshot pause.execution.runStateRecords

def checkpoint (pause : Pause) : CheckpointRef :=
  pauseCheckpoint pause.active.command pause.nativeSnapshot pause.journalCheckpoint

def state (pause : Pause) : PauseReason := mapPausedTaskState pause.execution.finishReason

def snapshot (env : Environment) (pause : Pause) : RuntimeSnapshot :=
  pauseSnapshot pause.active.command (env.sha256 (pause.envelope env))
    ⟨env.sha256 (pause.envelope env), runtimeSnapshotObjectKey (env.sha256 (pause.envelope env))⟩
    pause.checkpoint pause.state pause.nativeSnapshot

def effects (pause : Pause) : List (TraceEntry × EffectReceiptEvent) :=
  effectEvents pause.nativeSnapshot.trace

def receipts (env : Environment) (pause : Pause) : List EffectReceipt :=
  pause.effects.map (receiptOf env pause.active.command pause.checkpoint.checkpointId
    pause.execution.capture)

/-- CoreMind names its run, checkpoint and effects as the contract asks. -/
@[mk_iff] structure WellFormed (pause : Pause) : Prop where
  decisionTaskId : pause.active.decisionTaskId ≠ ""
  agentRunId : pause.active.agentRunId ≠ ""
  checkpoint : fieldChecksHold pause.checkpoint.fieldChecks = true
  effects : ∀ effect ∈ pause.effects, effect.2.idempotencyKey ≠ ""

/-- The pause has a new snapshot and a new checkpoint, and no stored object has the digest
of another text. -/
@[mk_iff] structure New (env : Environment) (db : Store) (pause : Pause) : Prop where
  snapshot : db.recoveryFacts.find? (pause.snapshot env).snapshotId = none
  snapshotObject : ∀ stored ∈ db.snapshotObjects.find? (env.sha256 (pause.envelope env)),
    stored.payload = pause.envelope env
  checkpoint : ∀ binding ∈ db.effectResultBindings,
    binding.identity.agentRunId = pause.active.agentRunId →
      binding.identity.checkpointId ≠ pause.checkpoint.checkpointId
  draftObject : ∀ draft ∈ pause.execution.capture.draft,
    ∀ stored ∈ db.effectResultObjects.find? (env.sha256 (effectResultText env draft)),
      stored.payload = effectResultText env draft

/-- The effect events have distinct ids without receipts so far, and the database sorts the
receipt ids as their code units do. -/
@[mk_iff] structure Unsaved (env : Environment) (db : Store) (pause : Pause) : Prop where
  unsaved : ∀ effect ∈ pause.effects,
    db.effectReceipts.find? (effectReceiptId effect.1) = none
  distinct : (pause.effects.map fun effect => effectReceiptId effect.1).Nodup
  collated : ((pause.effects.map fun effect => effectReceiptId effect.1).insertionSort
      fun a b => env.collate a b) =
    (pause.effects.map fun effect => effectReceiptId effect.1).insertionSort
      fun a b => codeUnitsLe a b

instance (pause : Pause) : Decidable pause.WellFormed :=
  decidable_of_iff _ (Pause.wellFormed_iff pause).symm

instance (db : Store) (pause : Pause) : Decidable (pause.New env db) :=
  decidable_of_iff _ (Pause.new_iff env db pause).symm

instance (db : Store) (pause : Pause) : Decidable (pause.Unsaved env db) :=
  decidable_of_iff _ (Pause.unsaved_iff env db pause).symm

end Pause

/-! ### Running the adapter -/

section Calls
variable {α : Type} {adapter : Adapter}

theorem callStore_ok {call : Store → Except PersistenceError (α × Store)} {value : α} {db : Store}
    (h : call adapter.db = .ok (value, db)) :
    (callStore call).run adapter = (.ok value, { adapter with db }) := by
  simp only [ExceptT.run, callStore, h]

theorem runStore_ok {call : Store → Except PersistenceError Store} {db : Store}
    (h : call adapter.db = .ok db) :
    (runStore call).run adapter = (.ok (), { adapter with db }) := by
  apply callStore_ok
  rw [h]
  rfl

theorem runStore_error {call : Store → Except PersistenceError Store} {error : PersistenceError}
    (h : call adapter.db = .error error) :
    (runStore call).run adapter = (.error (.persistence error), adapter) := by
  simp only [ExceptT.run, runStore, callStore, h]
  rfl

end Calls

/-! ### The loop over the trace -/

section Collect
variable {command : RunCommand} {checkpointId : String} {capture : DraftCapture} {start : Store}
  {adapter : Adapter}

/-- The recovery facts, the snapshots behind them and the control rows are the same. -/
structure SameFacts (start db : Store) : Prop where
  snapshotObjects : db.snapshotObjects = start.snapshotObjects
  recoveryFacts : db.recoveryFacts = start.recoveryFacts
  effectReceipts : db.effectReceipts = start.effectReceipts
  controlStates : db.controlStates = start.controlStates

/-- The store while the effect results of a pause are put: only results of the captured draft
are bound at its checkpoint. -/
structure Collecting (env : Environment) (command : RunCommand) (checkpointId : String)
    (capture : DraftCapture) (start db : Store) : Prop where
  frame : SameFacts start db
  keyed : DigestKeyed effectResultObjectKey db.effectResultObjects
  draftObject : ∀ draft stored, capture.draft = some draft →
    db.effectResultObjects.find? (env.sha256 (effectResultText env draft)) = some stored →
      stored.payload = effectResultText env draft
  bound : ∀ identity stored, identity.agentRunId = command.agentRunId →
    identity.checkpointId = checkpointId →
    db.effectResultBindings.find? identity = some stored → ∃ draft,
      capture.draft = some draft ∧ stored.digest = env.sha256 (effectResultText env draft) ∧
      stored.objectKey = effectResultObjectKey (env.sha256 (effectResultText env draft))

/-- Putting the captured draft for one more effect binds it and keeps the other bindings. -/
theorem Collecting.putEffectResult (now : Instant) {db : Store}
    (h : Collecting env command checkpointId capture start db) {draft : Json Rat}
    (hdraft : capture.draft = some draft) {effectId : String} (htask : command.decisionTaskId ≠ "")
    (hrun : command.agentRunId ≠ "") (hcheckpoint : checkpointId ≠ "") (heffect : effectId ≠ "") :
    ∃ db', putEffectResult env
        ⟨command.decisionTaskId, command.agentRunId, checkpointId, effectId⟩
        (effectResultText env draft) now db =
          .ok (⟨env.sha256 (effectResultText env draft),
            effectResultObjectKey (env.sha256 (effectResultText env draft)),
            command.decisionTaskId, command.agentRunId, checkpointId, effectId⟩, db') ∧
      Collecting env command checkpointId capture start db' ∧
      db'.hasBinding ⟨env.sha256 (effectResultText env draft),
        effectResultObjectKey (env.sha256 (effectResultText env draft)),
        command.decisionTaskId, command.agentRunId, checkpointId, effectId⟩ = true ∧
      ∀ reference, db.hasBinding reference = true → db'.hasBinding reference = true := by
  obtain ⟨objects, hput, hkeyed, stored, hstored, hpayload⟩ := exists_putContent now
    h.keyed fun stored => h.draftObject draft stored hdraft
  have hsame : ∀ stored, db.effectResultBindings.find?
      ⟨command.decisionTaskId, command.agentRunId, checkpointId, effectId⟩ = some stored →
      stored.digest = env.sha256 (effectResultText env draft) ∧
        stored.objectKey = effectResultObjectKey (env.sha256 (effectResultText env draft)) := by
    intro other hother
    obtain ⟨own, hown, hsame⟩ := h.bound _ other rfl rfl hother
    rw [hdraft] at hown
    cases hown
    exact hsame
  obtain ⟨bindings, hbind, ⟨binding, hbinding, hdigest, hkey⟩, hkept, hothers⟩ :=
    exists_bindEffectResult now
      ⟨command.decisionTaskId, command.agentRunId, checkpointId, effectId⟩ hsame
  refine ⟨{ db with effectResultObjects := objects, effectResultBindings := bindings },
    ?_, ⟨?_, hkeyed, ?_, ?_⟩, ?_, ?_⟩
  · unfold TaskPersistence.putEffectResult
    rw [if_neg (by simp [htask, hrun, hcheckpoint, heffect])]
    simp only [hput, hbind]
    rfl
  · exact ⟨h.frame.snapshotObjects, h.frame.recoveryFacts, h.frame.effectReceipts,
      h.frame.controlStates⟩
  · intro other found hother hfound
    rw [hdraft] at hother
    cases hother
    rw [hstored] at hfound
    cases hfound
    exact hpayload
  · intro identity found hidentity hat hfound
    by_cases hown : identity =
        ⟨command.decisionTaskId, command.agentRunId, checkpointId, effectId⟩
    · subst hown
      rw [hbinding] at hfound
      cases hfound
      exact ⟨draft, hdraft, hdigest, hkey⟩
    · exact h.bound identity found hidentity hat ((hothers identity hown).symm.trans hfound)
  · rw [Store.hasBinding, Option.any_eq_true]
    exact ⟨binding, hbinding, by simp [hdigest, hkey]⟩
  · intro reference hreference
    rw [Store.hasBinding, Option.any_eq_true] at hreference ⊢
    obtain ⟨old, hold, hsame⟩ := hreference
    exact ⟨old, hkept _ old hold, hsame⟩

theorem resultBound_mono {db db' : Store} {receipt : EffectReceipt}
    (hkept : ∀ reference, db.hasBinding reference = true → db'.hasBinding reference = true)
    (h : db.resultBound receipt = true) : db'.resultBound receipt = true := by
  unfold Store.resultBound at h ⊢
  split
  · rename_i result hstate
    rw [hstate] at h
    exact hkept result h
  · rfl

/-- One effect event is recorded with its state, and its result is bound. -/
theorem run_effectReceiptState (now : Instant)
    (h : Collecting env command checkpointId capture start adapter.db)
    (htask : command.decisionTaskId ≠ "") (hrun : command.agentRunId ≠ "")
    (hcheckpoint : checkpointId ≠ "") {effect : TraceEntry × EffectReceiptEvent}
    (heffect : effect.2.idempotencyKey ≠ "") :
    ∃ db, (effectReceiptState env command checkpointId capture now effect.2).run adapter =
        (.ok (recordedState env command checkpointId capture effect.2), { adapter with db }) ∧
      Collecting env command checkpointId capture start db ∧
      db.resultBound (receiptOf env command checkpointId capture effect) = true ∧
      ∀ reference, adapter.db.hasBinding reference = true → db.hasBinding reference = true := by
  obtain ⟨entry, ⟨effectId, tool, status⟩⟩ := effect
  have hunstored : ∀ state, recordedState env command checkpointId capture
      ⟨effectId, tool, status⟩ = state → (∀ result, state ≠ .committed result) →
      adapter.db.resultBound
        (receiptOf env command checkpointId capture (entry, ⟨effectId, tool, status⟩)) = true := by
    intro state hstate huncommitted
    simp only [Store.resultBound, receiptOf, hstate]
  cases status with
  | notStarted => exact ⟨adapter.db, rfl, h, hunstored .notStarted rfl nofun, fun _ hb => hb⟩
  | started => exact ⟨adapter.db, rfl, h, hunstored .started rfl nofun, fun _ hb => hb⟩
  | unknown => exact ⟨adapter.db, rfl, h, hunstored .unknown rfl nofun, fun _ hb => hb⟩
  | committed =>
    cases hdraft : capture.draft with
    | none =>
      refine ⟨adapter.db, ?_, h, hunstored .unknown ?_ nofun, fun _ hb => hb⟩
      · simp only [effectReceiptState, recordedState, hdraft]
        rfl
      · simp only [recordedState, hdraft]
    | some draft =>
      by_cases hown : tool = "submit_decision_draft" ∧ capture.calls = 1
      · obtain ⟨db, hput, hcollecting, hbound, hkept⟩ :=
          h.putEffectResult now hdraft htask hrun hcheckpoint heffect
        refine ⟨db, ?_, hcollecting, ?_, hkept⟩
        · simp only [effectReceiptState, recordedState, hdraft, hown.1, hown.2, ne_eq,
            not_true_eq_false, or_self, if_false, and_self, if_true]
          rw [run_bind_ok (callStore_ok hput)]
          rfl
        · simp only [Store.resultBound, receiptOf, recordedState, hdraft]
          rw [if_pos hown]
          exact hbound
      · refine ⟨adapter.db, ?_, h, hunstored .unknown ?_ nofun, fun _ hb => hb⟩
        · simp only [effectReceiptState, recordedState, hdraft]
          rw [if_neg hown, if_pos (not_and_or.mp hown)]
          rfl
        · simp only [recordedState, hdraft]
          exact if_neg hown

/-- The loop records every effect event, in the order of the trace. -/
theorem run_collectEffectReceipts (now : Instant) {trace : List TraceEntry}
    (h : Collecting env command checkpointId capture start adapter.db)
    (htask : command.decisionTaskId ≠ "") (hrun : command.agentRunId ≠ "")
    (hcheckpoint : checkpointId ≠ "")
    (heffects : ∀ effect ∈ effectEvents trace, effect.2.idempotencyKey ≠ "") :
    ∃ db, (collectEffectReceipts env command checkpointId capture now trace).run adapter =
        (.ok ((effectEvents trace).map (receiptOf env command checkpointId capture)),
          { adapter with db }) ∧
      Collecting env command checkpointId capture start db ∧
      (∀ receipt ∈ (effectEvents trace).map (receiptOf env command checkpointId capture),
        db.resultBound receipt = true) ∧
      ∀ reference, adapter.db.hasBinding reference = true → db.hasBinding reference = true := by
  induction trace generalizing adapter with
  | nil => exact ⟨adapter.db, rfl, h, List.forall_mem_nil _, fun _ hb => hb⟩
  | cons entry trace ih =>
    obtain ⟨eventId, timestamp, event⟩ := entry
    cases event with
    | none => exact ih h heffects
    | some event =>
      obtain ⟨heffect, hrest⟩ := List.forall_mem_cons.mp heffects
      obtain ⟨db, hstate, hcollecting, hbound, hkept⟩ :=
        run_effectReceiptState now h htask hrun hcheckpoint heffect
      obtain ⟨db', hreceipts, hcollecting', hbounds, hkept'⟩ :=
        @ih { adapter with db } hcollecting hrest
      refine ⟨db', ?_, hcollecting', ?_, fun reference hb => hkept' _ (hkept _ hb)⟩
      · simp only [collectEffectReceipts]
        rw [run_bind_ok hstate, run_bind_ok hreceipts]
        rfl
      · exact List.forall_mem_cons.mpr ⟨resultBound_mono hkept' hbound, hbounds⟩

end Collect

/-! ### The facts of a pause are valid -/

namespace Pause
variable {pause : Pause}

theorem checkpoint_decisionTaskId (pause : Pause) :
    pause.checkpoint.decisionTaskId = pause.active.decisionTaskId := by
  unfold checkpoint pauseCheckpoint
  split <;> rfl

theorem checkpoint_agentRunId (pause : Pause) :
    pause.checkpoint.agentRunId = pause.active.agentRunId := by
  unfold checkpoint pauseCheckpoint
  split <;> rfl

theorem WellFormed.checkpointId (h : pause.WellFormed) : pause.checkpoint.checkpointId ≠ "" := by
  have hchecks := h.checkpoint
  simp only [CheckpointRef.fieldChecks, fieldChecksHold_cons, Bool.and_eq_true] at hchecks
  exact of_decide_eq_true hchecks.1

theorem prefixed_ne_empty {first rest : String} (h : first ≠ "") : first ++ rest ≠ "" := by
  intro hempty
  have hlists := congrArg String.toList hempty
  rw [String.toList_append] at hlists
  exact h (String.toList_eq_nil_iff.mp (List.append_eq_nil_iff.mp hlists).1)

theorem WellFormed.decodedSnapshot (h : pause.WellFormed)
    (hsha : ∀ text, isSha256Digest (env.sha256 text) = true) :
    decodeRuntimeSnapshotV1 (pause.snapshot env) = .ok (pause.snapshot env) := by
  have hfields : fieldChecksHold (pause.snapshot env).fieldChecks = true := by
    have hid : nonEmpty ("snapshot-" ++ env.sha256 (pause.envelope env)) = true :=
      decide_eq_true (prefixed_ne_empty (by decide))
    simp only [RuntimeSnapshot.fieldChecks, fieldChecksHold_append, fieldChecksHold_below,
      fieldChecksHold_cons, fieldChecksHold_nil, Bool.and_true, Bool.and_eq_true, decide_eq_true_eq]
    exact ⟨⟨hid, decide_eq_true h.decisionTaskId, decide_eq_true h.agentRunId, hsha _, rfl⟩,
      h.checkpoint⟩
  have hversion : (pause.snapshot env).runtimeProtocolVersion = "1" := rfl
  have htask : (pause.snapshot env).checkpoint.decisionTaskId =
      (pause.snapshot env).decisionTaskId := pause.checkpoint_decisionTaskId
  have hrun : (pause.snapshot env).checkpoint.agentRunId = (pause.snapshot env).agentRunId :=
    pause.checkpoint_agentRunId
  simp [decodeRuntimeSnapshotV1, hversion, hfields, htask, hrun]

/-- Only the captured draft is recorded as a committed result. -/
theorem recordedState_committed {command : RunCommand} {checkpointId : String}
    {capture : DraftCapture} {event : EffectReceiptEvent} {result : EffectResultRef}
    (h : recordedState env command checkpointId capture event = .committed result) :
    ∃ draft, capture.draft = some draft ∧
      result = ⟨env.sha256 (effectResultText env draft),
        effectResultObjectKey (env.sha256 (effectResultText env draft)), command.decisionTaskId,
        command.agentRunId, checkpointId, event.idempotencyKey⟩ := by
  unfold recordedState at h
  split at h
  · cases h
  · cases h
  · cases h
  · cases h
  · rename_i draft _ hdraft
    split at h
    · cases h
      exact ⟨draft, hdraft, rfl⟩
    · cases h

theorem WellFormed.decodedReceipts (h : pause.WellFormed)
    (hsha : ∀ text, isSha256Digest (env.sha256 text) = true) :
    ∀ receipt ∈ pause.receipts env, (decodeEffectReceiptV1 receipt).isOk = true := by
  intro receipt hin
  obtain ⟨effect, heffect, rfl⟩ := List.mem_map.mp hin
  have hid : nonEmpty (effectReceiptId effect.1) = true :=
    decide_eq_true (prefixed_ne_empty (by decide))
  have hresult : fieldChecksHold (receiptOf env pause.active.command pause.checkpoint.checkpointId
      pause.execution.capture effect).resultChecks = true := by
    unfold EffectReceipt.resultChecks
    split
    · rename_i result hstate
      obtain ⟨draft, -, rfl⟩ := recordedState_committed hstate
      simp [receiptOf, hsha]
    · rfl
  have hfields : fieldChecksHold (receiptOf env pause.active.command
      pause.checkpoint.checkpointId pause.execution.capture effect).fieldChecks = true := by
    simp only [EffectReceipt.fieldChecks, fieldChecksHold_append, fieldChecksHold_cons,
      fieldChecksHold_nil, Bool.and_true, Bool.and_eq_true]
    exact ⟨⟨hid, decide_eq_true h.decisionTaskId, decide_eq_true h.agentRunId,
      decide_eq_true h.checkpointId, decide_eq_true (h.effects effect heffect)⟩, hresult⟩
  unfold decodeEffectReceiptV1
  rw [if_pos hfields]
  rfl

theorem WellFormed.valid (h : pause.WellFormed)
    (hsha : ∀ text, isSha256Digest (env.sha256 text) = true) :
    validRecoveryFacts (pause.snapshot env) (pause.receipts env) = true := by
  rw [validRecoveryFacts, h.decodedSnapshot hsha, Bool.and_eq_true, Bool.and_eq_true,
    List.all_eq_true, List.all_eq_true]
  refine ⟨⟨rfl, h.decodedReceipts hsha⟩, ?_⟩
  intro receipt hin
  obtain ⟨effect, -, rfl⟩ := List.mem_map.mp hin
  simp [EffectReceipt.belongsTo, receiptOf, snapshot, pauseSnapshot]

end Pause

/-! ### One pause -/

theorem eq_of_perm_of_map_eq {α β : Type} {f : α → β} {xs ys : List α} (hperm : xs.Perm ys)
    (hnodup : (xs.map f).Nodup) (h : xs.map f = ys.map f) : xs = ys := by
  apply List.ext_getElem hperm.length_eq
  intro n hx hy
  have hsame : f xs[n] = f ys[n] := by
    have hat := congrArg (fun zs => zs[n]?) h
    simpa [hx, hy] using hat
  exact List.inj_on_of_nodup_map hnodup (List.getElem_mem hx)
    (hperm.mem_iff.mpr (List.getElem_mem hy)) hsame

/-- The condition on the effect events is the one on their receipts. -/
theorem Pause.unsaved_iff_insertable {pause : Pause} {db db' : Store}
    (hrows : db'.effectReceipts = db.effectReceipts) :
    pause.Unsaved env db ↔ Insertable env db' (pause.receipts env) := by
  have hids : (pause.receipts env).map EffectReceipt.effectReceiptId =
      pause.effects.map fun effect => effectReceiptId effect.1 := by
    rw [Pause.receipts, List.map_map]
    rfl
  have hsorts : ∀ r : String → String → Bool,
      ((pause.receipts env).insertionSort fun a b =>
          r a.effectReceiptId b.effectReceiptId).map EffectReceipt.effectReceiptId =
        (pause.effects.map fun effect => effectReceiptId effect.1).insertionSort
          fun a b => r a b := by
    intro r
    rw [← hids]
    exact List.map_insertionSort _ _ _ _ fun _ _ _ _ => Iff.rfl
  constructor
  · intro h
    refine ⟨?_, hids ▸ h.distinct, ?_⟩
    · intro receipt hin
      obtain ⟨effect, heffect, rfl⟩ := List.mem_map.mp hin
      rw [hrows]
      exact h.unsaved effect heffect
    · have hperm := List.perm_insertionSort (fun a b : EffectReceipt =>
        (env.collate a.effectReceiptId b.effectReceiptId : Prop)) (pause.receipts env)
      apply eq_of_perm_of_map_eq (hperm.trans (List.perm_insertionSort _ _).symm)
      · exact (hperm.map _).nodup_iff.mpr (hids ▸ h.distinct)
      · rw [hsorts env.collate, hsorts codeUnitsLe]
        exact h.collated
  · intro h
    refine ⟨?_, hids ▸ h.distinct, ?_⟩
    · intro effect heffect
      rw [← hrows]
      exact h.fresh _ (List.mem_map_of_mem heffect)
    · rw [← hsorts env.collate, ← hsorts codeUnitsLe, h.collated]

/-- Stored contents are keyed by their digests, and stored receipts belong to stored facts. -/
structure StoreSound (db : Store) : Prop where
  snapshotsKeyed : DigestKeyed runtimeSnapshotObjectKey db.snapshotObjects
  effectsKeyed : DigestKeyed effectResultObjectKey db.effectResultObjects
  owned : ∀ row ∈ db.effectReceipts, ∃ fact ∈ db.recoveryFacts, fact.snapshotId = row.snapshotId

/-- The facts of a pause are stored. -/
structure Stored (env : Environment) (pause : Pause) (row : ControlState) (db db' : Store) :
    Prop where
  sound : StoreSound db'
  fact : (db'.recoveryFacts.find? (pause.snapshot env).snapshotId).isSome = true
  loaded : loadRecoveryFacts env (pause.snapshot env).snapshotId db' =
    .ok (some (pause.snapshot env, (pause.receipts env).insertionSort fun a b =>
      codeUnitsLe a.effectReceiptId b.effectReceiptId))
  own : ∃ row', db'.controlStates.find? pause.active.agentRunId = some row' ∧
    row'.state = .running ∧ row'.controllerId = row.controllerId ∧
    row'.snapshotId = some (row.snapshotId.getD (pause.snapshot env).snapshotId)
  others : ∀ other, other ≠ pause.active.agentRunId →
    db'.controlStates.find? other = db.controlStates.find? other

section Pausing
variable {adapter : Adapter} {pause : Pause}

theorem run_createPublicRunEvent (command : RunCommand) (taskState : TaskState)
    (eventType : RunEventType) (summary : String) (occurredAt : UtcTimestamp) (adapter : Adapter) :
    ∃ event history, (createPublicRunEvent command taskState eventType summary occurredAt).run
      adapter = (.ok event, { adapter with eventHistory := history }) :=
  ⟨_, _, rfl⟩

theorem run_publishApprovals (command : RunCommand) (approvals : List UtcTimestamp)
    (adapter : Adapter) : ∃ history, (publishApprovals command approvals).run adapter =
      (.ok (), { adapter with eventHistory := history }) := by
  induction approvals generalizing adapter with
  | nil => exact ⟨adapter.eventHistory, rfl⟩
  | cons occurredAt approvals ih =>
    obtain ⟨event, history, hevent⟩ := run_createPublicRunEvent command (.paused .permission)
      .taskStateChanged "Runtime 等待外部操作授权" occurredAt adapter
    obtain ⟨later, hlater⟩ := ih { adapter with eventHistory := history }
    refine ⟨later, ?_⟩
    simp only [publishApprovals]
    rw [run_bind_ok hevent, hlater]

theorem run_pausedRunEvents (command : RunCommand) (state : PauseReason)
    (occurredAt : UtcTimestamp) (adapter : Adapter) :
    ∃ events history, (pausedRunEvents command state occurredAt).run adapter =
      (.ok events, { adapter with eventHistory := history }) := by
  have hget : (get : AdapterM Adapter).run adapter = (.ok adapter, adapter) := rfl
  unfold pausedRunEvents
  rw [run_bind_ok hget]
  by_cases hlast : (adapter.historyOf command.agentRunId).getLast?.map RunEvent.taskState =
      some (.paused state)
  · rw [if_pos hlast]
    exact ⟨_, adapter.eventHistory, rfl⟩
  · rw [if_neg hlast]
    obtain ⟨event, history, hevent⟩ := run_createPublicRunEvent command (.paused state)
      .taskStateChanged (pausedSummary state) occurredAt adapter
    rw [run_bind_ok hevent]
    exact ⟨_, history, rfl⟩

/-- The raw snapshot is stored; nothing else changes. -/
structure RawStored (env : Environment) (pause : Pause) (db db' : Store) : Prop where
  stored : ∃ object, db'.snapshotObjects.find? (env.sha256 (pause.envelope env)) = some object ∧
    object.objectKey = runtimeSnapshotObjectKey (env.sha256 (pause.envelope env))
  recoveryFacts : db'.recoveryFacts = db.recoveryFacts
  effectReceipts : db'.effectReceipts = db.effectReceipts
  controlStates : db'.controlStates = db.controlStates
  effectResultObjects : db'.effectResultObjects = db.effectResultObjects
  effectResultBindings : db'.effectResultBindings = db.effectResultBindings

theorem exists_putRawSnapshot (now : Instant) {db : Store} (hsound : StoreSound db)
    (hnew : pause.New env db) :
    ∃ db', putRawSnapshot env (pause.envelope env) now db =
        .ok (⟨env.sha256 (pause.envelope env),
          runtimeSnapshotObjectKey (env.sha256 (pause.envelope env))⟩, db') ∧
      StoreSound db' ∧ RawStored env pause db db' := by
  obtain ⟨objects, hput, hkeyed, object, hobject, -⟩ :=
    exists_putContent now hsound.snapshotsKeyed hnew.snapshotObject
  obtain ⟨hin, hdigest⟩ := Table.find?_eq_some.mp hobject
  refine ⟨{ db with snapshotObjects := objects }, ?_,
    ⟨hkeyed, hsound.effectsKeyed, hsound.owned⟩,
    ⟨⟨object, hobject, hdigest ▸ hkeyed object hin⟩, rfl, rfl, rfl, rfl, rfl⟩⟩
  simp only [putRawSnapshot, hput]
  rfl

/-- The calls of a pause in the names of its facts. -/
theorem Pause.buildPausedOutcome_eq (env : Environment) (pause : Pause) (now : Instant) :
    buildPausedOutcome env pause.active.command pause.execution now = do
      let rawSnapshot ← callStore <| putRawSnapshot env (pause.envelope env) now
      let snapshot := pauseSnapshot pause.active.command (env.sha256 (pause.envelope env))
        rawSnapshot pause.checkpoint pause.state pause.nativeSnapshot
      let effectReceipts ← collectEffectReceipts env pause.active.command
        pause.checkpoint.checkpointId pause.execution.capture now pause.nativeSnapshot.trace
      let runEvents ← pausedRunEvents pause.active.command pause.state
        pause.nativeSnapshot.updatedAt
      runStore <| saveRecoveryFacts env snapshot effectReceipts now
      return ⟨pause.state, pausedSummary pause.state, snapshot, effectReceipts, runEvents⟩ := by
  unfold buildPausedOutcome
  simp only [pause.parsed, pause.journaled]
  rfl

/-- The store just before the facts of a pause are saved. -/
structure Ready (env : Environment) (pause : Pause) (before db : Store) : Prop where
  sound : StoreSound db
  recoveryFacts : db.recoveryFacts = before.recoveryFacts
  effectReceipts : db.effectReceipts = before.effectReceipts
  controlStates : db.controlStates = before.controlStates
  object : ∃ stored, db.snapshotObjects.find? (pause.snapshot env).rawSnapshot.digest =
    some stored ∧ stored.objectKey = (pause.snapshot env).rawSnapshot.objectKey
  bound : ∀ receipt ∈ pause.receipts env, db.resultBound receipt = true

/-- The first calls of a new pause succeed; what is left is to save its facts. -/
theorem run_buildPausedOutcome (now : Instant) (hwell : pause.WellFormed)
    (hnew : pause.New env adapter.db) (hsound : StoreSound adapter.db) :
    ∃ db outcome history, Ready env pause adapter.db db ∧ outcome.state = pause.state ∧
      outcome.snapshot = pause.snapshot env ∧
      (∀ saved, saveRecoveryFacts env (pause.snapshot env) (pause.receipts env) now db =
          .ok saved →
        (buildPausedOutcome env pause.active.command pause.execution now).run adapter =
          (.ok outcome, ⟨saved, history⟩)) ∧
      ∀ error, saveRecoveryFacts env (pause.snapshot env) (pause.receipts env) now db =
          .error error →
        (buildPausedOutcome env pause.active.command pause.execution now).run adapter =
          (.error (.persistence error), ⟨db, history⟩) := by
  obtain ⟨start, hraw, hstart, hstarted⟩ := exists_putRawSnapshot now hsound hnew
  have hcollecting : Collecting env pause.active.command pause.checkpoint.checkpointId
      pause.execution.capture start start :=
    { frame := ⟨rfl, rfl, rfl, rfl⟩
      keyed := hstart.effectsKeyed
      draftObject := by
        rw [hstarted.effectResultObjects]
        exact fun draft stored hdraft => hnew.draftObject draft hdraft stored
      bound := by
        intro identity binding hrun hcheckpoint hfound
        rw [hstarted.effectResultBindings] at hfound
        obtain ⟨hin, rfl⟩ := Table.find?_eq_some.mp hfound
        exact absurd hcheckpoint (hnew.checkpoint binding hin hrun) }
  obtain ⟨db, hreceipts, hcollected, hbound, -⟩ := @run_collectEffectReceipts env
    pause.active.command pause.checkpoint.checkpointId pause.execution.capture start
    { adapter with db := start } now pause.nativeSnapshot.trace hcollecting
    hwell.decisionTaskId hwell.agentRunId hwell.checkpointId hwell.effects
  obtain ⟨events, history, hevents⟩ := run_pausedRunEvents pause.active.command pause.state
    pause.nativeSnapshot.updatedAt { adapter with db }
  have hfacts := hcollected.frame.recoveryFacts.trans hstarted.recoveryFacts
  have hrows := hcollected.frame.effectReceipts.trans hstarted.effectReceipts
  refine ⟨db, ⟨pause.state, pausedSummary pause.state, pause.snapshot env, pause.receipts env,
    events⟩, history, ⟨⟨?_, hcollected.keyed, ?_⟩, hfacts, hrows,
      hcollected.frame.controlStates.trans hstarted.controlStates, ?_, hbound⟩, rfl, rfl, ?_, ?_⟩
  · rw [hcollected.frame.snapshotObjects]
    exact hstart.snapshotsKeyed
  · rw [hfacts, hrows]
    exact hsound.owned
  · rw [hcollected.frame.snapshotObjects]
    exact hstarted.stored
  · intro saved hsaved
    rw [Pause.buildPausedOutcome_eq, run_bind_ok (callStore_ok hraw), run_bind_ok hreceipts,
      run_bind_ok hevents, run_bind_ok (runStore_ok hsaved)]
    rfl
  · intro error herror
    rw [Pause.buildPausedOutcome_eq, run_bind_ok (callStore_ok hraw), run_bind_ok hreceipts,
      run_bind_ok hevents, run_bind_error (runStore_error herror)]

namespace Ready
variable {before db : Store}

theorem unknown (h : Ready env pause before db) (hnew : pause.New env before)
    (hsound : StoreSound before) : db.recoveryFacts.find? (pause.snapshot env).snapshotId = none ∧
      ∀ row ∈ db.effectReceipts, row.snapshotId ≠ (pause.snapshot env).snapshotId := by
  rw [h.recoveryFacts, h.effectReceipts]
  refine ⟨hnew.snapshot, ?_⟩
  intro row hin hsame
  obtain ⟨fact, hfact, howner⟩ := hsound.owned row hin
  exact Table.find?_eq_none.mp hnew.snapshot fact hfact (howner.trans hsame)

/-- The facts of a new and unsaved pause are stored. -/
theorem saved (h : Ready env pause before db) (now : Instant)
    (hsha : ∀ text, isSha256Digest (env.sha256 text) = true) (hwell : pause.WellFormed)
    (hnew : pause.New env before) (hunsaved : pause.Unsaved env before)
    (hsound : StoreSound before) {row : ControlState}
    (hrow : before.controlStates.find? pause.active.agentRunId = some row)
    (hrunning : row.state = .running) :
    ∃ saved, saveRecoveryFacts env (pause.snapshot env) (pause.receipts env) now db = .ok saved ∧
      Stored env pause row before saved := by
  obtain ⟨hunknown, hnone⟩ := h.unknown hnew hsound
  have hinsertable := (Pause.unsaved_iff_insertable h.effectReceipts).mp hunsaved
  have hstate : (pause.snapshot env).taskState = .paused pause.state := rfl
  have hcurrent : db.controlStates.find? (pause.snapshot env).agentRunId = some row := by
    rw [h.controlStates]
    exact hrow
  obtain ⟨saved, hsaved, hobjects, hresults, hinserted, happended, hown, hothers⟩ :=
    exists_saveRecoveryFacts now (hwell.valid hsha) h.object hunknown hnone h.bound hinsertable
      hstate hcurrent hrunning
  have hfound : saved.recoveryFacts.find? (pause.snapshot env).snapshotId =
      some ⟨pause.snapshot env, now⟩ := (Table.find?_insert? hinserted).trans (if_pos rfl)
  have hlisted := (@receiptsOf_appended env now db (pause.snapshot env).snapshotId
    (pause.receipts env) saved.effectReceipts hnone happended saved rfl).trans
      hinsertable.collated
  refine ⟨saved, hsaved, ⟨⟨?_, ?_, ?_⟩, ?_, ?_, hown, ?_⟩⟩
  · rw [hobjects]
    exact h.sound.snapshotsKeyed
  · rw [hresults]
    exact h.sound.effectsKeyed
  · intro row hin
    rw [← Table.mem_rows, happended, List.mem_append] at hin
    rcases hin with hold | hadded
    · obtain ⟨fact, hfact, howner⟩ := h.sound.owned row hold
      exact ⟨fact, (Table.mem_insert? hinserted).mpr (.inl hfact), howner⟩
    · obtain ⟨receipt, -, rfl⟩ := List.mem_map.mp hadded
      exact ⟨_, (Table.mem_insert? hinserted).mpr (.inr rfl), rfl⟩
  · rw [hfound]
    rfl
  · have hdecoded : (saved.receiptsOf env (pause.snapshot env).snapshotId).all
        (fun receipt => (decodeEffectReceiptV1 receipt).isOk) = true := by
      rw [hlisted, List.all_eq_true]
      intro receipt hin
      exact hwell.decodedReceipts hsha receipt ((List.perm_insertionSort _ _).mem_iff.mp hin)
    simp only [loadRecoveryFacts, hfound, hwell.decodedSnapshot hsha, decodedOrUnavailable]
    rw [← hlisted]
    exact if_pos hdecoded
  · intro other hother
    rw [hothers other hother, h.controlStates]

/-- The facts of a pause are refused when an effect event has a receipt already. -/
theorem refused (h : Ready env pause before db) (now : Instant) (hnew : pause.New env before)
    (hsound : StoreSound before) (hsaved : ¬ pause.Unsaved env before) :
    ∃ error, saveRecoveryFacts env (pause.snapshot env) (pause.receipts env) now db =
      .error error := by
  cases hresult : saveRecoveryFacts env (pause.snapshot env) (pause.receipts env) now db with
  | error error => exact ⟨error, rfl⟩
  | ok saved =>
    have hinsertable := saveRecoveryFacts_insertable hresult (h.unknown hnew hsound).2 h.bound
    exact absurd ((Pause.unsaved_iff_insertable h.effectReceipts).mpr hinsertable) hsaved

end Ready

end Pausing

end ChoiceMind.Orchestrator
