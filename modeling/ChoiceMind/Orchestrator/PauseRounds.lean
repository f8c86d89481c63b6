import ChoiceMind.Orchestrator.PauseFacts
import ChoiceMind.TaskPersistence.System

/-!
# Pausing a run again and again

Rounds of starting, pausing and resuming. The receipt of an effect event is named after the
event, so an event that an earlier pause has recorded cannot be recorded again under the new
snapshot.
-/

namespace ChoiceMind.Orchestrator

set_option autoImplicit false

open Contracts TaskPersistence Transition Calls

variable {env : Environment} {rounds rounds' : Rounds}

/-! ### One pause of the rounds -/

section Pausing
variable {adapter : Adapter} {pause : Pause}

/-- A control row moves to the next snapshot when it is completed; other rows stay. -/
theorem exists_completeRuntimeControl {db : Store} {agentRunId controllerId : String}
    {expectedSnapshotId : Option String} {nextSnapshotId : String} (state : RuntimeControlState)
    (runEvents : List RunEvent) (now : Instant) {row : ControlState}
    (hrow : db.controlStates.find? agentRunId = some row)
    (hcompletable : row.completableBy controllerId expectedSnapshotId = true)
    (hfact : (db.recoveryFacts.find? nextSnapshotId).isSome = true) :
    ∃ controlStates, completeRuntimeControl agentRunId controllerId expectedSnapshotId
        (some nextSnapshotId) state runEvents now db = .ok { db with controlStates } ∧
      (∃ row', controlStates.find? agentRunId = some row' ∧ row'.state = state ∧
        row'.snapshotId = some nextSnapshotId ∧ row'.controllerId = none) ∧
      ∀ other, other ≠ agentRunId →
        controlStates.find? other = db.controlStates.find? other := by
  obtain ⟨fact, hfact⟩ := Option.isSome_iff_exists.mp hfact
  unfold completeRuntimeControl
  simp only [hrow, hcompletable, if_true, Option.any_some, hfact, Option.isNone_some,
    Bool.false_eq_true, if_false]
  refine ⟨_, rfl, ?_, ?_⟩
  · rw [Table.find?_update_self, hrow]
    exact ⟨_, rfl, rfl, rfl, rfl⟩
  · intro other hother
    rw [Table.find?_update, if_neg hother]

/-- What the store holds after a pause whose facts are saved. -/
structure PauseSaved (env : Environment) (pause : Pause) (db : Store) : Prop where
  loaded : ∃ receipts, loadRecoveryFacts env (pause.snapshot env).snapshotId db =
      .ok (some (pause.snapshot env, receipts)) ∧
    receipts.length = pause.effects.length ∧
    ∀ effect ∈ pause.effects,
      (receipts.filter fun receipt => receipt.effectReceiptId = effectReceiptId effect.1) =
        [receiptOf env pause.active.command pause.checkpoint.checkpointId
          pause.execution.capture effect]
  control : ∃ row, db.controlStates.find? pause.active.agentRunId = some row ∧
    row.state = .paused pause.state ∧ row.snapshotId = some (pause.snapshot env).snapshotId

/-- Receipts of distinct events are told apart by their ids. -/
theorem Pause.receiptsOf_effect (env : Environment)
    (hdistinct : (pause.effects.map fun effect => effectReceiptId effect.1).Nodup)
    {effect : TraceEntry × EffectReceiptEvent} (heffect : effect ∈ pause.effects)
    {receipts : List EffectReceipt} (hreceipts : receipts.Perm (pause.receipts env)) :
    (receipts.filter fun receipt => receipt.effectReceiptId = effectReceiptId effect.1) =
      [receiptOf env pause.active.command pause.checkpoint.checkpointId
        pause.execution.capture effect] := by
  have hids : ((pause.receipts env).map EffectReceipt.effectReceiptId).Nodup := by
    rw [Pause.receipts, List.map_map]
    exact hdistinct
  have hin : receiptOf env pause.active.command pause.checkpoint.checkpointId
      pause.execution.capture effect ∈ pause.receipts env := List.mem_map_of_mem heffect
  have honly : ∀ receipt ∈ pause.receipts env,
      decide (receipt.effectReceiptId = effectReceiptId effect.1) =
        decide (receipt = receiptOf env pause.active.command pause.checkpoint.checkpointId
          pause.execution.capture effect) := by
    intro receipt hreceipt
    rw [decide_eq_decide]
    constructor
    · exact fun hsame => List.inj_on_of_nodup_map hids hreceipt hin hsame
    · rintro rfl
      rfl
  have hone : ((pause.receipts env).filter fun receipt =>
      receipt.effectReceiptId = effectReceiptId effect.1) =
        [receiptOf env pause.active.command pause.checkpoint.checkpointId
          pause.execution.capture effect] := by
    rw [List.filter_congr honly, List.filter_eq, List.count_eq_one_of_mem hids.of_map hin]
    rfl
  have hperm := hreceipts.filter fun receipt =>
    decide (receipt.effectReceiptId = effectReceiptId effect.1)
  rw [hone] at hperm
  exact hperm.eq_singleton

/-- A new and unsaved pause of a running execution is saved, and its control row moves to the
new snapshot. -/
theorem run_pauseExecution (now : Instant)
    (hsha : ∀ text, isSha256Digest (env.sha256 text) = true) (hwell : pause.WellFormed)
    (hnew : pause.New env adapter.db) (hunsaved : pause.Unsaved env adapter.db)
    (hsound : StoreSound adapter.db) {row : ControlState}
    (hrow : adapter.db.controlStates.find? pause.active.agentRunId = some row)
    (hrunning : row.state = .running)
    (hcontroller : row.controllerId = some pause.active.controllerId)
    (hresumed : row.snapshotId = pause.active.resumedFrom) :
    ∃ outcome adapter', (pauseExecution env pause.active pause.execution now).run adapter =
        (.ok outcome, adapter') ∧
      outcome.snapshot = pause.snapshot env ∧ PauseSaved env pause adapter'.db ∧
      StoreSound adapter'.db ∧
      (∀ row', adapter'.db.controlStates.find? pause.active.agentRunId = some row' →
        row'.controllerId = none) ∧
      ∀ other, other ≠ pause.active.agentRunId →
        adapter'.db.controlStates.find? other = adapter.db.controlStates.find? other := by
  obtain ⟨approved, happroved⟩ :=
    run_publishApprovals pause.active.command pause.execution.approvals adapter
  obtain ⟨db, outcome, history, hready, hstate, hsnapshot, hbuilds, -⟩ :=
    @run_buildPausedOutcome env { adapter with eventHistory := approved } pause now hwell hnew
      hsound
  obtain ⟨saved, hsaved, hstored⟩ :=
    hready.saved now hsha hwell hnew hunsaved hsound hrow hrunning
  obtain ⟨row', hrow', hrunning', hcontroller', hsnapshot'⟩ := hstored.own
  have hcompletable : row'.completableBy pause.active.controllerId
      (some (pause.active.resumedFrom.getD (pause.snapshot env).snapshotId)) = true := by
    simp [ControlState.completableBy, hrunning', hcontroller', hcontroller, hsnapshot', hresumed]
  obtain ⟨controlStates, hcompleted, hown, hothers⟩ := exists_completeRuntimeControl
    (.paused pause.state) outcome.runEvents now hrow' hcompletable hstored.fact
  obtain ⟨moved, hmoved, hpaused, hat, hfree⟩ := hown
  refine ⟨outcome, ⟨{ saved with controlStates }, history⟩, ?_, hsnapshot, ⟨?_, ?_⟩,
    ⟨hstored.sound.snapshotsKeyed, hstored.sound.effectsKeyed, hstored.sound.owned⟩, ?_, ?_⟩
  · unfold pauseExecution
    rw [run_bind_ok happroved, run_bind_ok (hbuilds saved hsaved)]
    simp only [hsnapshot, hstate]
    rw [run_bind_ok (runStore_ok hcompleted)]
    rfl
  · refine ⟨_, hstored.loaded, ?_, ?_⟩
    · rw [List.length_insertionSort, Pause.receipts, List.length_map]
    · intro effect heffect
      exact pause.receiptsOf_effect env hunsaved.distinct heffect (List.perm_insertionSort _ _)
  · exact ⟨moved, hmoved, hpaused, hat⟩
  · intro other hother
    rw [hmoved] at hother
    cases hother
    exact hfree
  · intro other hother
    exact (hothers other hother).trans (hstored.others other hother)

/-- A pause with a recorded effect event fails and leaves its control row running. -/
theorem run_pauseExecution_refused (now : Instant) (hwell : pause.WellFormed)
    (hnew : pause.New env adapter.db) (hsaved : ¬ pause.Unsaved env adapter.db)
    (hsound : StoreSound adapter.db) :
    ∃ error adapter', (pauseExecution env pause.active pause.execution now).run adapter =
        (.error error, adapter') ∧
      StoreSound adapter'.db ∧ adapter'.db.controlStates = adapter.db.controlStates := by
  obtain ⟨approved, happroved⟩ :=
    run_publishApprovals pause.active.command pause.execution.approvals adapter
  obtain ⟨db, outcome, history, hready, -, -, -, hfails⟩ :=
    @run_buildPausedOutcome env { adapter with eventHistory := approved } pause now hwell hnew
      hsound
  obtain ⟨error, herror⟩ := hready.refused now hnew hsound hsaved
  refine ⟨.persistence error, ⟨db, history⟩, ?_, hready.sound, hready.controlStates⟩
  unfold pauseExecution
  rw [run_bind_ok happroved, run_bind_error (hfails error herror)]

end Pausing

/-! ### The invariant of the rounds -/

/-- The control row of an execution is running, names its controller and the snapshot it was
resumed from. -/
def Controls (db : Store) (active : ActiveExecution) : Prop :=
  ∃ row, db.controlStates.find? active.agentRunId = some row ∧ row.state = .running ∧
    row.controllerId = some active.controllerId ∧ row.snapshotId = active.resumedFrom

structure RoundsSound (env : Environment) (rounds : Rounds) : Prop where
  store : StoreSound rounds.adapter.db
  controlled : ∀ agentRunId active, rounds.active.find? agentRunId = some active →
    Controls rounds.adapter.db active
  drawn : ∀ agentRunId row index, rounds.adapter.db.controlStates.find? agentRunId = some row →
    row.controllerId = some (env.randomUUID index) → index < rounds.drawn

theorem RoundsSound.empty (env : Environment) : RoundsSound env Rounds.empty := by
  refine ⟨⟨?_, ?_, ?_⟩, ?_, ?_⟩
  · exact fun object hin => absurd hin (Table.not_mem_empty object)
  · exact fun object hin => absurd hin (Table.not_mem_empty object)
  · exact fun row hin => absurd hin (Table.not_mem_empty row)
  · intro agentRunId active hfound
    cases hfound
  · intro agentRunId row index hfound
    cases hfound

theorem Controls.of_find? {db db' : Store} {active : ActiveExecution} (h : Controls db active)
    (hsame : db'.controlStates.find? active.agentRunId =
      db.controlStates.find? active.agentRunId) : Controls db' active := by
  unfold Controls
  rw [hsame]
  exact h

namespace RoundsSound

theorem drew (h : RoundsSound env rounds) :
    RoundsSound env { rounds with drawn := rounds.drawn + 1 } :=
  ⟨h.store, h.controlled, fun agentRunId row index hrow hindex =>
    Nat.lt_succ_of_lt (h.drawn agentRunId row index hrow hindex)⟩

/-- An execution that took over its control row with a new controller. -/
theorem began (h : RoundsSound env rounds) {active : ActiveExecution} {db : Store}
    (hstore : StoreSound db) (hactive : Controls db active)
    (hdrawn : active.controllerId = env.randomUUID rounds.drawn)
    (hothers : ∀ other, other ≠ active.agentRunId →
      db.controlStates.find? other = rounds.adapter.db.controlStates.find? other) :
    RoundsSound env
      { adapter := { rounds.adapter with db }
        active := rounds.active.set active
        drawn := rounds.drawn + 1 } := by
  refine ⟨hstore, ?_, ?_⟩
  · intro agentRunId other hfound
    have hkey : other.agentRunId = agentRunId := (Table.find?_eq_some.mp hfound).2
    simp only [Table.find?_set] at hfound
    split at hfound
    · cases hfound
      exact hactive
    · rename_i hother
      rw [← hkey] at hother
      exact (h.controlled agentRunId other hfound).of_find? (hothers _ hother)
  · intro agentRunId row index hrow hindex
    by_cases hown : agentRunId = active.agentRunId
    · obtain ⟨current, hcurrent, -, hcontroller, -⟩ := hactive
      simp only [hown, hcurrent, Option.some.injEq] at hrow
      rw [← hrow, hcontroller, hdrawn, Option.some.injEq] at hindex
      have hlast : rounds.drawn = index := env.randomUUID_injective hindex
      simp only [hlast]
      omega
    · simp only [hothers agentRunId hown] at hrow
      exact Nat.lt_succ_of_lt (h.drawn agentRunId row index hrow hindex)

/-- An execution that ended; its control row names no new controller. -/
theorem ended (h : RoundsSound env rounds) {agentRunId : String} {adapter : Adapter}
    (hstore : StoreSound adapter.db)
    (hown : ∀ row index, adapter.db.controlStates.find? agentRunId = some row →
      row.controllerId = some (env.randomUUID index) → index < rounds.drawn)
    (hothers : ∀ other, other ≠ agentRunId →
      adapter.db.controlStates.find? other = rounds.adapter.db.controlStates.find? other) :
    RoundsSound env { rounds with
      adapter
      active := rounds.active.deleteWhere fun other => other.agentRunId = agentRunId } := by
  refine ⟨hstore, ?_, ?_⟩
  · intro other active hfound
    have hkey : active.agentRunId = other := (Table.find?_eq_some.mp hfound).2
    simp only [Table.find?_deleteWhere, Option.filter_eq_some_iff, Bool.not_eq_true',
      decide_eq_false_iff_not] at hfound
    exact (h.controlled other active hfound.1).of_find? (hothers _ hfound.2)
  · intro other row index hrow hindex
    by_cases hsame : other = agentRunId
    · subst hsame
      exact hown row index hrow hindex
    · simp only [hothers other hsame] at hrow
      exact h.drawn other row index hrow hindex

end RoundsSound

/-! ### The steps of the rounds -/

section Steps
variable {db db' : Store} {agentRunId controllerId snapshotId : String} {leaseDurationMs : Nat}
  {now : Instant}

/-- Who takes over a control row keeps its snapshot. -/
theorem recordRuntimeRunning_takes
    (h : recordRuntimeRunning agentRunId controllerId leaseDurationMs now db = .ok db') :
    ∃ controlStates row', db' = { db with controlStates } ∧
      controlStates.find? agentRunId = some row' ∧ row'.state = .running ∧
      row'.controllerId = some controllerId ∧
      (row'.snapshotId = none ∧ db.controlStates.find? agentRunId = none ∨
        ∃ row, db.controlStates.find? agentRunId = some row ∧
          row.admitsRunning controllerId now = true ∧ row'.snapshotId = row.snapshotId) ∧
      ∀ other, other ≠ agentRunId →
        controlStates.find? other = db.controlStates.find? other := by
  unfold recordRuntimeRunning at h
  split at h
  · rename_i hnone
    simp only [bind_eq_ok, orUnavailable_eq_ok] at h
    obtain ⟨controlStates, hinsert, h⟩ := h
    cases h
    refine ⟨controlStates, _, rfl, (Table.find?_insert? hinsert).trans (if_pos rfl), rfl, rfl,
      .inl ⟨rfl, hnone⟩, ?_⟩
    intro other hother
    rw [Table.find?_insert? hinsert, if_neg hother]
  · rename_i row hrow
    split at h
    · rename_i hadmits
      cases h
      have hrunning : row.state = .running := by
        simp only [ControlState.admitsRunning, Bool.and_eq_true, decide_eq_true_eq] at hadmits
        exact hadmits.1
      refine ⟨_, _, rfl, Table.find?_update_self.trans (congrArg _ hrow), hrunning, rfl,
        .inr ⟨row, hrow, hadmits, rfl⟩, ?_⟩
      intro other hother
      rw [Table.find?_update, if_neg hother]
    · cases h

/-- A resume that is acquired takes over the row of its snapshot. -/
theorem claimRuntimeResume_acquired {state : RuntimeControlState} {runEvents : List RunEvent}
    (h : claimRuntimeResume agentRunId snapshotId controllerId leaseDurationMs now db =
      .ok (⟨.acquired, state, runEvents⟩, db')) :
    ∃ controlStates row', db' = { db with controlStates } ∧
      controlStates.find? agentRunId = some row' ∧ row'.state = .running ∧
      row'.controllerId = some controllerId ∧ row'.snapshotId = some snapshotId ∧
      ∀ other, other ≠ agentRunId →
        controlStates.find? other = db.controlStates.find? other := by
  unfold claimRuntimeResume at h
  split at h
  · cases h
  rename_i row hrow
  split at h
  · cases h
  rename_i hsnapshot
  repeat' split at h
  all_goals cases h
  refine ⟨_, _, rfl, Table.find?_update_self.trans (congrArg _ hrow), rfl, rfl,
    not_not.mp hsnapshot, ?_⟩
  intro other hother
  rw [Table.find?_update, if_neg hother]

theorem claimRuntimeResume_refused {claim : ControlClaim}
    (h : claimRuntimeResume agentRunId snapshotId controllerId leaseDurationMs now db =
      .ok (claim, db')) (hrefused : claim.status ≠ .acquired) : db' = db := by
  unfold claimRuntimeResume at h
  split at h
  · cases h
  repeat' split at h
  all_goals cases h
  · rfl
  · rfl
  · rfl
  · rfl
  · rfl
  · exact absurd rfl hrefused

theorem StoreSound.withControlStates (h : StoreSound db)
    (controlStates : Table ControlState.agentRunId) : StoreSound { db with controlStates } :=
  ⟨h.snapshotsKeyed, h.effectsKeyed, h.owned⟩

namespace RoundsSound

theorem start (h : RoundsSound env rounds) (command : RunCommand) {reply : RoundReply}
    (hbegin : beginExecution ⟨command.agentRunId, command.decisionTaskId,
        env.randomUUID rounds.drawn, none⟩ leaseDurationMs now
        { rounds with drawn := rounds.drawn + 1 } rounds.adapter.db = (reply, rounds')) :
    RoundsSound env rounds' := by
  unfold beginExecution at hbegin
  split at hbegin
  · rename_i db' hrecorded
    cases hbegin
    obtain ⟨controlStates, row', rfl, hrow', hrunning, hcontroller, hkept, hothers⟩ :=
      recordRuntimeRunning_takes hrecorded
    have hsnapshot : row'.snapshotId = none := by
      rcases hkept with ⟨hnone, -⟩ | ⟨row, hrow, hadmits, hsame⟩
      · exact hnone
      · simp only [ControlState.admitsRunning, Bool.and_eq_true, Bool.or_eq_true,
          decide_eq_true_eq] at hadmits
        rcases hadmits.2 with hmine | hexpired
        · have hbefore := h.drawn _ row _ hrow hmine
          omega
        · exact hsame.trans hexpired.1
    exact h.began (h.store.withControlStates controlStates)
      ⟨row', hrow', hrunning, hcontroller, hsnapshot⟩ rfl hothers
  · cases hbegin
    exact h.drew

theorem resume (h : RoundsSound env rounds) (command : RunCommand) {state : RuntimeControlState}
    {runEvents : List RunEvent} {reply : RoundReply}
    (hclaim : claimRuntimeResume command.agentRunId snapshotId (env.randomUUID rounds.drawn)
      leaseDurationMs now rounds.adapter.db = .ok (⟨.acquired, state, runEvents⟩, db))
    (hbegin : beginExecution ⟨command.agentRunId, command.decisionTaskId,
        env.randomUUID rounds.drawn, some snapshotId⟩ leaseDurationMs now
        { rounds with drawn := rounds.drawn + 1 } db = (reply, rounds')) :
    RoundsSound env rounds' := by
  obtain ⟨claimed, row, rfl, hrow, hrunning, hcontroller, hsnapshot, hothers⟩ :=
    claimRuntimeResume_acquired hclaim
  unfold beginExecution at hbegin
  split at hbegin
  · rename_i db' hrecorded
    cases hbegin
    obtain ⟨controlStates, row', rfl, hrow', hrunning', hcontroller', hkept, hothers'⟩ :=
      recordRuntimeRunning_takes hrecorded
    have hsnapshot' : row'.snapshotId = some snapshotId := by
      rcases hkept with ⟨-, hnone⟩ | ⟨old, hold, -, hsame⟩
      · rw [hrow] at hnone
        cases hnone
      · rw [hrow] at hold
        cases hold
        exact hsame.trans hsnapshot
    exact h.began ((h.store.withControlStates claimed).withControlStates controlStates)
      ⟨row', hrow', hrunning', hcontroller', hsnapshot'⟩ rfl fun other hother =>
        (hothers' other hother).trans (hothers other hother)
  · -- the row names the controller that just claimed it
    rename_i error hrecorded
    have hadmits : row.admitsRunning (env.randomUUID rounds.drawn) now = true := by
      simp [ControlState.admitsRunning, hrunning, hcontroller]
    unfold recordRuntimeRunning at hrecorded
    simp only [hrow, hadmits, if_true] at hrecorded
    cases hrecorded

end RoundsSound

end Steps

/-! ### Runs -/

/-- Every pause has a snapshot and names as CoreMind promises them, and is new. -/
def PauseAssumed (env : Environment) (rounds : Rounds) : Instant × RoundEvent → Prop
  | (_, .pause agentRunId execution) => ∀ active ∈ rounds.active.find? agentRunId,
    ∃ pause ∈ Pause.of? active execution, pause.WellFormed ∧ pause.New env rounds.adapter.db
  | (_, .start _ _) | (_, .resume _ _ _) => True

/-- No effect event of a pause has a receipt from an earlier pause. -/
def PauseUnsaved (env : Environment) (rounds : Rounds) : Instant × RoundEvent → Prop
  | (_, .pause agentRunId execution) => ∀ active ∈ rounds.active.find? agentRunId,
    ∀ pause ∈ Pause.of? active execution, pause.Unsaved env rounds.adapter.db
  | (_, .start _ _) | (_, .resume _ _ _) => True

instance (rounds : Rounds) (event : Instant × RoundEvent) :
    Decidable (PauseAssumed env rounds event) :=
  match event with
  | (_, .pause agentRunId execution) =>
    inferInstanceAs (Decidable (∀ active ∈ rounds.active.find? agentRunId,
      ∃ pause ∈ Pause.of? active execution, pause.WellFormed ∧ pause.New env rounds.adapter.db))
  | (_, .start _ _) | (_, .resume _ _ _) => .isTrue trivial

instance (rounds : Rounds) (event : Instant × RoundEvent) :
    Decidable (PauseUnsaved env rounds event) :=
  match event with
  | (_, .pause agentRunId execution) =>
    inferInstanceAs (Decidable (∀ active ∈ rounds.active.find? agentRunId,
      ∀ pause ∈ Pause.of? active execution, pause.Unsaved env rounds.adapter.db))
  | (_, .start _ _) | (_, .resume _ _ _) => .isTrue trivial

/-- A pause succeeds and its facts are stored. -/
def PauseStored (env : Environment) (rounds : Rounds) (event : Instant × RoundEvent)
    (reply : RoundReply) (rounds' : Rounds) : Prop :=
  match event with
  | (_, .pause agentRunId execution) => ∃ active ∈ rounds.active.find? agentRunId,
    ∃ pause ∈ Pause.of? active execution, ∃ outcome, reply = .paused outcome ∧
      outcome.snapshot = pause.snapshot env ∧ PauseSaved env pause rounds'.adapter.db
  | _ => True

section Runs
variable {event : Instant × RoundEvent} {reply : RoundReply}

/-- A pause is stored exactly when none of its effect events is recorded; the invariant is kept
either way. -/
theorem roundStep_pause (hsha : ∀ text, isSha256Digest (env.sha256 text) = true)
    {agentRunId : String} {execution : CoreMindExecution} {now : Instant}
    (h : RoundsSound env rounds)
    (hassumed : PauseAssumed env rounds (now, .pause agentRunId execution))
    (hstep : roundStep env rounds (now, .pause agentRunId execution) = some (reply, rounds')) :
    RoundsSound env rounds' ∧
      (PauseStored env rounds (now, .pause agentRunId execution) reply rounds' ↔
        PauseUnsaved env rounds (now, .pause agentRunId execution)) := by
  simp only [roundStep] at hstep
  split at hstep
  · cases hstep
  rename_i active hactive
  obtain ⟨pause, hpause, hwell, hnew⟩ := hassumed active hactive
  obtain ⟨rfl, rfl⟩ := Pause.of?_eq_some hpause
  have hkey : pause.active.agentRunId = agentRunId := (Table.find?_eq_some.mp hactive).2
  by_cases hunsaved : pause.Unsaved env rounds.adapter.db
  · obtain ⟨row, hrow, hrunning, hcontroller, hresumed⟩ := h.controlled agentRunId _ hactive
    obtain ⟨outcome, adapter', hpaused, hsnapshot, hsaved, hstore, hfree, hothers⟩ :=
      run_pauseExecution now hsha hwell hnew hunsaved h.store hrow hrunning hcontroller hresumed
    simp only [hpaused] at hstep
    cases hstep
    rw [hkey] at hfree hothers
    refine ⟨h.ended hstore ?_ hothers, iff_of_true ?_ ?_⟩
    · intro row' index hrow' hindex
      rw [hfree row' hrow'] at hindex
      cases hindex
    · exact ⟨_, hactive, pause, hpause, outcome, rfl, hsnapshot, hsaved⟩
    · intro other hother found hfound
      rw [hactive] at hother
      cases hother
      rw [hpause] at hfound
      cases hfound
      exact hunsaved
  · obtain ⟨error, adapter', hfailed, hstore, hrows⟩ :=
      run_pauseExecution_refused now hwell hnew hunsaved h.store
    simp only [hfailed] at hstep
    cases hstep
    refine ⟨h.ended hstore ?_ ?_, iff_of_false ?_ ?_⟩
    · intro row index hrow hindex
      rw [hrows] at hrow
      exact h.drawn agentRunId row index hrow hindex
    · intro other _
      rw [hrows]
    · rintro ⟨_, _, _, _, outcome, hreply, -⟩
      cases hreply
    · exact fun hall => hunsaved (hall _ hactive pause hpause)

theorem roundStep_sound (hsha : ∀ text, isSha256Digest (env.sha256 text) = true)
    (h : RoundsSound env rounds) (hassumed : PauseAssumed env rounds event)
    (hstep : roundStep env rounds event = some (reply, rounds')) :
    RoundsSound env rounds' ∧
      (PauseStored env rounds event reply rounds' ↔ PauseUnsaved env rounds event) := by
  obtain ⟨now, event⟩ := event
  cases event with
  | start command leaseDurationMs =>
    simp only [roundStep, Option.some.injEq] at hstep
    exact ⟨h.start command hstep, Iff.rfl⟩
  | resume command snapshotId leaseDurationMs =>
    refine ⟨?_, Iff.rfl⟩
    simp only [roundStep] at hstep
    split at hstep
    · cases hstep
      exact h.drew
    · rename_i hclaim
      rw [Option.some.injEq] at hstep
      exact h.resume command hclaim hstep
    · rename_i claim db hrefused hclaim
      cases hstep
      have hsame : db = rounds.adapter.db := claimRuntimeResume_refused hclaim fun hacquired =>
        hrefused claim.state claim.runEvents (by rw [← hacquired])
      rw [hsame]
      exact h.drew
  | pause agentRunId execution => exact roundStep_pause hsha h hassumed hstep

end Runs

/-! ### Two rounds -/

/-- Texts of even and of odd size have different digests. -/
def parityDigest (text : String) : String :=
  if text.utf8ByteSize % 2 = 0 then zeroDigest else String.ofList (List.replicate 64 '1')

def parityEnv : Environment := { sampleEnv with sha256 := parityDigest }

theorem parityEnv_sha256 (text : String) : isSha256Digest (parityEnv.sha256 text) = true := by
  change isSha256Digest (parityDigest text) = true
  unfold parityDigest
  split
  · rfl
  · rfl

/-- The entry of a tool call that did not start. -/
def sampleEntry (eventId effectId : String) : TraceEntry :=
  ⟨eventId, { second := 0 }, some ⟨effectId, "search", .notStarted⟩⟩

def sampleExecution (value : Json Rat) (checkpointId : String) (trace : List TraceEntry) :
    CoreMindExecution where
  finishReason := ""
  snapshot := some
    { value
      runId := "run"
      resumable := true
      checkpoints := [⟨checkpointId, { second := 0 }⟩]
      transitionSequence := 1
      updatedAt := { second := 0 }
      trace }
  capture := ⟨0, none⟩
  runStateRecords := [⟨.null, 1, { second := 0 }⟩]
  approvals := []

def onePause : List (Instant × RoundEvent) :=
  [(0, .start ⟨"task", "run"⟩ 1),
   (1, .pause "run" (sampleExecution .null "a" [sampleEntry "a" "a"]))]

/-- The run is resumed, and its trace grows by a second entry before the second pause. -/
def twoPauses : List (Instant × RoundEvent) :=
  onePause ++
    [(2, .resume ⟨"task", "run"⟩ ("snapshot-" ++ String.ofList (List.replicate 64 '1')) 1),
     (3, .pause "run" (sampleExecution (.bool false) "b"
       [sampleEntry "a" "a", sampleEntry "b" "b"]))]

/-- The replies of a run whose second pause cannot be stored although the first one allows to
resume. -/
def secondRefused (es : List (Entry Rounds (Instant × RoundEvent) RoundReply)) : Bool :=
  match es with
  | [_, ⟨_, _, .paused outcome, _⟩, ⟨_, _, .running, _⟩, ⟨_, _, .failed error, _⟩] =>
    (evaluateRuntimeRecoveryPermissionV1 outcome.snapshot outcome.effectReceipts).decision =
      .resumeAllowed && error = .persistence .persistenceUnavailable
  | _ => false

end ChoiceMind.Orchestrator
