import ChoiceMind.TaskPersistence.RecoveryRows

/-!
# The controller of a run

A run has at most one control row, and the row names at most one controller. Who acquires
it, completes it or cancels it is decided by the row alone, so every property of controllers
comes from what one call can do to the row of one run.
-/

namespace ChoiceMind.TaskPersistence

set_option autoImplicit false

open Contracts Transition

/-- The run and the controller that a call made the holder, with the length of its lease. -/
def Action.acquires : Action → Reply → Option (String × String × Nat)
  | .recordRuntimeRunning agentRunId controllerId leaseDurationMs, .done =>
    some (agentRunId, controllerId, leaseDurationMs)
  | .claimRuntimeResume agentRunId _ controllerId leaseDurationMs, .runtimeControl claim =>
    if claim.status = .acquired then some (agentRunId, controllerId, leaseDurationMs) else none
  | _, _ => none

/-- The two operations outside the runtime store that write control rows. -/
def Action.cancelsOrPurges : Action → Bool
  | .requestRuntimeCancel _ => true
  | .purgePrivateDataForOwner _ => true
  | _ => false

/-- The row names the controller and its lease has not ended. -/
def ControlState.leasedTo (row : ControlState) (controllerId : String) (now : Instant) : Bool :=
  row.controllerId = some controllerId && row.leaseExpiresAt.any fun expiry => now < expiry

/-- The controller has the row in state `RUNNING` with a lease that has not ended. -/
def ControlState.heldBy (row : ControlState) (controllerId : String) (now : Instant) : Bool :=
  row.state = .running && row.leasedTo controllerId now

/-- The row after `completeRuntimeControl`. -/
def completedControl (nextSnapshotId : Option String) (state : RuntimeControlState)
    (runEvents : List RunEvent) (updatedAt : Instant) (row : ControlState) : ControlState :=
  { row with
    snapshotId := nextSnapshotId
    state
    events := runEvents
    controllerId := none
    leaseExpiresAt := none
    updatedAt }

/-! ### What one call does to the row of one run -/

/-- What a call of the runtime store does to the control row of a run. -/
inductive ControlMove (now : Instant) (action : Action) (reply : Reply) (agentRunId : String) :
    Option ControlState → Option ControlState → Prop where
  | kept (row : Option ControlState)
      (hquiet : ∀ c d, action.acquires reply ≠ some (agentRunId, c, d)) :
      ControlMove now action reply agentRunId row row
  | saved {row : ControlState} {snapshot : RuntimeSnapshot} {receipts : List EffectReceipt}
      (hby : action = .saveRecoveryFacts snapshot receipts)
      (hquiet : ∀ c d, action.acquires reply ≠ some (agentRunId, c, d))
      (hcontroller : row.controllerId = none) (hlease : row.leaseExpiresAt = none) :
      ControlMove now action reply agentRunId none (some row)
  | linked {row : ControlState} {snapshot : RuntimeSnapshot} {receipts : List EffectReceipt}
      (hby : action = .saveRecoveryFacts snapshot receipts)
      (hquiet : ∀ c d, action.acquires reply ≠ some (agentRunId, c, d))
      (hrunning : row.state = .running) :
      ControlMove now action reply agentRunId (some row) (some (linkSnapshot snapshot now row))
  | acquired {old : Option ControlState} {row : ControlState} {controllerId : String}
      {leaseDurationMs : Nat}
      (hby : action.acquires reply = some (agentRunId, controllerId, leaseDurationMs))
      (hopen : ∀ r ∈ old, r.state.isTerminal = false)
      (hfree : ∀ r ∈ old, r.state = .running → r.controllerId ≠ some controllerId →
        (r.leaseExpiresAt.any fun expiry => now < expiry) = false)
      (hstate : row.state = .running) (hcontroller : row.controllerId = some controllerId)
      (hlease : row.leaseExpiresAt = some (now + leaseDurationMs)) :
      ControlMove now action reply agentRunId old (some row)
  | completed {row : ControlState} {controllerId : String}
      {expectedSnapshotId nextSnapshotId : Option String} {state : RuntimeControlState}
      {runEvents : List RunEvent}
      (hby : action = .completeRuntimeControl agentRunId controllerId expectedSnapshotId
        nextSnapshotId state runEvents)
      (hquiet : ∀ c d, action.acquires reply ≠ some (agentRunId, c, d))
      (hrow : row.completableBy controllerId expectedSnapshotId = true) :
      ControlMove now action reply agentRunId (some row)
        (some (completedControl nextSnapshotId state runEvents now row))
  | cancelled {row row' : ControlState} {cancellationId : String} {runEvents : List RunEvent}
      (hby : action = .claimRuntimeCancel agentRunId cancellationId runEvents)
      (hquiet : ∀ c d, action.acquires reply ≠ some (agentRunId, c, d))
      (hopen : row.state.isTerminal = false) (hcancelled : row'.state = .cancelled)
      (hcontroller : row'.controllerId = none) :
      ControlMove now action reply agentRunId (some row) (some row')

def ControlMoves (now : Instant) (action : Action) (reply : Reply)
    (states states' : Table ControlState.agentRunId) : Prop :=
  ∀ agentRunId, ControlMove now action reply agentRunId (states.find? agentRunId)
    (states'.find? agentRunId)

section Moves
variable {env : Environment} {db db' : Store} {now : Instant} {action : Action} {reply : Reply}
  {states states' : Table ControlState.agentRunId} {row : ControlState}

theorem quiet_of_none (h : action.acquires reply = none) (agentRunId : String) :
    ∀ c d, action.acquires reply ≠ some (agentRunId, c, d) := by
  intro c d hsome
  rw [h] at hsome
  cases hsome

namespace ControlMoves

/-- A call that acquires nothing and leaves the rows. -/
theorem refl (hquiet : ∀ agentRunId c d, action.acquires reply ≠ some (agentRunId, c, d)) :
    ControlMoves now action reply states states :=
  fun agentRunId => .kept _ (hquiet agentRunId)

theorem of_eq (hquiet : ∀ agentRunId c d, action.acquires reply ≠ some (agentRunId, c, d))
    (h : states' = states) : ControlMoves now action reply states states' :=
  h ▸ refl hquiet

theorem insert (h : states.insert? row = some states')
    (hquiet : ∀ agentRunId, agentRunId ≠ row.agentRunId → ∀ c d,
      action.acquires reply ≠ some (agentRunId, c, d))
    (hmove : ControlMove now action reply row.agentRunId none (some row)) :
    ControlMoves now action reply states states' := by
  intro agentRunId
  rw [Table.find?_insert? h]
  split
  · rename_i hsame
    rw [hsame, Table.find?_eq_none.mpr (Table.key_fresh_of_insert? h)]
    exact hmove
  · exact .kept _ (hquiet agentRunId ‹_›)

theorem update {agentRunId : String} {f : ControlState → ControlState}
    {hf : ∀ row, (f row).agentRunId = row.agentRunId}
    (hrow : states.find? agentRunId = some row)
    (hquiet : ∀ other, other ≠ agentRunId → ∀ c d, action.acquires reply ≠ some (other, c, d))
    (hmove : ControlMove now action reply agentRunId (some row) (some (f row))) :
    ControlMoves now action reply states (states.update agentRunId f hf) := by
  intro other
  rw [Table.find?_update]
  split
  · rename_i hsame
    rw [hsame, hrow]
    exact hmove
  · exact .kept _ (hquiet other ‹_›)

end ControlMoves

theorem recordRuntimeRunning_moves {agentRunId controllerId : String} {leaseDurationMs : Nat}
    (h : recordRuntimeRunning agentRunId controllerId leaseDurationMs now db = .ok db') :
    ControlMoves now (.recordRuntimeRunning agentRunId controllerId leaseDurationMs) .done
      db.controlStates db'.controlStates := by
  have hquiet : ∀ other, other ≠ agentRunId → ∀ c d,
      (Action.recordRuntimeRunning agentRunId controllerId leaseDurationMs).acquires .done ≠
        some (other, c, d) := by
    intro other hother c d heq
    cases heq
    exact hother rfl
  unfold recordRuntimeRunning at h
  split at h
  · simp only [bind_eq_ok, orUnavailable_eq_ok] at h
    obtain ⟨controlStates, hinsert, h⟩ := h
    cases h
    exact .insert hinsert hquiet (.acquired rfl (fun r hr => absurd hr (Option.not_mem_none r))
      (fun r hr => absurd hr (Option.not_mem_none r)) rfl rfl rfl)
  · rename_i row hrow
    split at h
    · rename_i hadmits
      cases h
      simp only [ControlState.admitsRunning, Bool.and_eq_true, Bool.or_eq_true,
        decide_eq_true_eq] at hadmits
      dsimp only
      refine .update hrow hquiet (.acquired rfl ?_ ?_ hadmits.1 rfl rfl)
      · rintro r ⟨⟩
        rw [hadmits.1]
        rfl
      · rintro r ⟨⟩ - hother
        rcases hadmits.2 with hsame | ⟨-, hexpired⟩
        · exact absurd hsame hother
        · -- the lease ended at `now` or before
          rw [Option.any_eq_true] at hexpired
          obtain ⟨expiry, hexpiry, hended⟩ := hexpired
          rw [hexpiry, Option.any_some, decide_eq_false_iff_not, not_lt]
          exact of_decide_eq_true hended
    · cases h

theorem claimRuntimeResume_moves {agentRunId snapshotId controllerId : String}
    {leaseDurationMs : Nat} {claim : ControlClaim}
    (h : claimRuntimeResume agentRunId snapshotId controllerId leaseDurationMs now db =
      .ok (claim, db')) :
    ControlMoves now (.claimRuntimeResume agentRunId snapshotId controllerId leaseDurationMs)
      (.runtimeControl claim) db.controlStates db'.controlStates := by
  have hquiet : ∀ status state runEvents, status ≠ .acquired → ∀ other c d,
      (Action.claimRuntimeResume agentRunId snapshotId controllerId leaseDurationMs).acquires
        (.runtimeControl ⟨status, state, runEvents⟩) ≠ some (other, c, d) := by
    intro status state runEvents hstatus other c d heq
    simp only [Action.acquires, if_neg hstatus] at heq
    cases heq
  unfold claimRuntimeResume at h
  split at h
  · cases h
  rename_i row hrow
  split at h
  · cases h
    exact .refl (hquiet _ _ _ (by decide))
  split at h
  · cases h
    exact .refl (hquiet _ _ _ (by decide))
  split at h
  · cases h
    exact .refl (hquiet _ _ _ (by decide))
  rename_i hexpired
  split at h
  · cases h
    exact .refl (hquiet _ _ _ (by decide))
  rename_i hcompleted
  split at h
  · cases h
    exact .refl (hquiet _ _ _ (by decide))
  rename_i hopen
  cases h
  dsimp only
  refine .update hrow ?_ (.acquired rfl ?_ ?_ rfl rfl rfl)
  · intro other hother c d heq
    simp only [Action.acquires, if_pos] at heq
    cases heq
    exact hother rfl
  · rintro r ⟨⟩
    cases hstate : row.state <;>
      simp_all [RuntimeControlState.isPaused, RuntimeControlState.isTerminal]
  · rintro r ⟨⟩ hrunning -
    simpa [hrunning] using hexpired

theorem completeRuntimeControl_moves {agentRunId controllerId : String}
    {expectedSnapshotId nextSnapshotId : Option String} {state : RuntimeControlState}
    {runEvents : List RunEvent}
    (h : completeRuntimeControl agentRunId controllerId expectedSnapshotId nextSnapshotId state
      runEvents now db = .ok db') :
    ControlMoves now (.completeRuntimeControl agentRunId controllerId expectedSnapshotId
      nextSnapshotId state runEvents) .done db.controlStates db'.controlStates := by
  unfold completeRuntimeControl at h
  split at h
  · cases h
  rename_i row hrow
  split at h
  · rename_i hcompletable
    split at h
    · cases h
    · cases h
      dsimp only
      exact .update hrow (fun other _ => quiet_of_none rfl other)
        (.completed rfl (quiet_of_none rfl _) hcompletable)
  · split at h
    · cases h
      exact .refl (quiet_of_none rfl)
    · cases h

theorem claimRuntimeCancel_moves {agentRunId cancellationId : String}
    {runEvents : List RunEvent} {claim : ControlClaim}
    (h : claimRuntimeCancel agentRunId cancellationId runEvents now db = .ok (claim, db')) :
    ControlMoves now (.claimRuntimeCancel agentRunId cancellationId runEvents)
      (.runtimeControl claim) db.controlStates db'.controlStates := by
  unfold claimRuntimeCancel at h
  split at h
  · cases h
  rename_i row hrow
  split at h
  · cases h
    exact .refl (quiet_of_none rfl)
  · rename_i hlive
    split at h
    · cases h
      exact .refl (quiet_of_none rfl)
    · rename_i hopen
      cases h
      dsimp only
      refine .update hrow (fun other _ => quiet_of_none rfl other)
        (.cancelled rfl (quiet_of_none rfl _) ?_ rfl rfl)
      cases hstate : row.state <;> simp_all [RuntimeControlState.isTerminal]

theorem recordSnapshot_moves {snapshot : RuntimeSnapshot} {receipts : List EffectReceipt}
    (hby : action = .saveRecoveryFacts snapshot receipts)
    (hquiet : ∀ agentRunId c d, action.acquires reply ≠ some (agentRunId, c, d))
    (h : recordSnapshot snapshot now db = .ok db') :
    ControlMoves now action reply db.controlStates db'.controlStates := by
  unfold recordSnapshot at h
  split at h
  · cases h
  split at h
  · simp only [bind_eq_ok, orUnavailable_eq_ok] at h
    obtain ⟨controlStates, hinsert, h⟩ := h
    cases h
    exact .insert hinsert (fun other _ => hquiet other) (.saved hby (hquiet _) rfl rfl)
  · rename_i row hrow
    split at h
    · rename_i hrunning
      cases h
      dsimp only
      exact .update hrow (fun other _ => hquiet other) (.linked hby (hquiet _) hrunning.1)
    · cases h
      exact .refl hquiet

theorem saveRecoveryFacts_moves {snapshot : RuntimeSnapshot} {effectReceipts : List EffectReceipt}
    (h : saveRecoveryFacts env snapshot effectReceipts now db = .ok db') :
    ControlMoves now (.saveRecoveryFacts snapshot effectReceipts) .done db.controlStates
      db'.controlStates := by
  unfold saveRecoveryFacts at h
  split at h
  · cases h
  split at h
  · cases h
  simp only [bind_eq_ok] at h
  obtain ⟨facts, -, db₁, hreceipts, h⟩ := h
  obtain ⟨receipts, rfl, -⟩ := insertReceipts_ok hreceipts
  split at h
  · cases h
  have hquiet : ∀ agentRunId c d,
      (Action.saveRecoveryFacts snapshot effectReceipts).acquires .done ≠
        some (agentRunId, c, d) := quiet_of_none rfl
  have hmoves := recordSnapshot_moves rfl hquiet h
  exact hmoves

theorem perform_moves (h : perform env now db action = .ok (reply, db'))
    (haction : action.cancelsOrPurges = false) :
    ControlMoves now action reply db.controlStates db'.controlStates := by
  cases action with
  | requestRuntimeCancel input => cases haction
  | purgePrivateDataForOwner ownerUserId => cases haction
  | recordRuntimeRunning agentRunId controllerId leaseDurationMs =>
    simp only [perform, bind_eq_ok] at h
    obtain ⟨_, hrecord, h⟩ := h
    cases h
    exact recordRuntimeRunning_moves hrecord
  | claimRuntimeResume agentRunId snapshotId controllerId leaseDurationMs =>
    simp only [perform, bind_eq_ok] at h
    obtain ⟨⟨claim, _⟩, hclaim, h⟩ := h
    cases h
    exact claimRuntimeResume_moves hclaim
  | completeRuntimeControl agentRunId controllerId expected next state runEvents =>
    simp only [perform, bind_eq_ok] at h
    obtain ⟨_, hcomplete, h⟩ := h
    cases h
    exact completeRuntimeControl_moves hcomplete
  | claimRuntimeCancel agentRunId cancellationId runEvents =>
    simp only [perform, bind_eq_ok] at h
    obtain ⟨⟨claim, _⟩, hclaim, h⟩ := h
    cases h
    exact claimRuntimeCancel_moves hclaim
  | saveRecoveryFacts snapshot effectReceipts =>
    simp only [perform, bind_eq_ok] at h
    obtain ⟨_, hsave, h⟩ := h
    cases h
    exact saveRecoveryFacts_moves hsave
  | publishNext retryDelayMs republishDelayMs delivered skipped =>
    simp only [perform] at h
    cases h
    obtain ⟨outbox, hframe, -⟩ :=
      publishNext_frame env retryDelayMs republishDelayMs delivered skipped now db
    rw [hframe]
    exact .refl (quiet_of_none rfl)
  | deleteEncryptedCredential key =>
    cases h
    exact .refl (quiet_of_none rfl)
  | saveEvidence row =>
    cases h
    obtain ⟨evidenceIndex, hframe, -⟩ := saveEvidence_eq row db
    rw [hframe]
    exact .refl (quiet_of_none rfl)
  | skipCursors count =>
    cases h
    exact .refl (quiet_of_none rfl)
  | submit command ownerUserId =>
    simp only [perform, bind_eq_ok] at h
    obtain ⟨⟨snapshot, _⟩, hsubmit, h⟩ := h
    cases h
    exact .of_eq (quiet_of_none rfl) (submit_same hsubmit).controlStates
  | claimNext operationId workerId leaseDurationMs =>
    simp only [perform, bind_eq_ok] at h
    obtain ⟨⟨result, _⟩, hclaim, h⟩ := h
    cases h
    exact .of_eq (quiet_of_none rfl) (claimNext_same hclaim).controlStates
  | claimNextRuntimeControl workerId leaseDurationMs skipped =>
    simp only [perform, bind_eq_ok] at h
    obtain ⟨⟨result, _⟩, hclaim, h⟩ := h
    cases h
    exact .of_eq (quiet_of_none rfl) (claimNextRuntimeControl_same hclaim).controlStates
  | complete operationId workerId outcome controlRequestId =>
    simp only [perform, bind_eq_ok] at h
    obtain ⟨⟨completion, _⟩, hcomplete, h⟩ := h
    cases h
    exact .of_eq (quiet_of_none rfl) (complete_same hcomplete).controlStates
  | requestRuntimeResume input =>
    simp only [perform, bind_eq_ok] at h
    obtain ⟨⟨status, _⟩, hrequest, h⟩ := h
    cases h
    exact .of_eq (quiet_of_none rfl) (requestRuntimeResume_same hrequest).controlStates
  | putRawSnapshot payload =>
    simp only [perform, bind_eq_ok] at h
    obtain ⟨⟨reference, _⟩, hput, h⟩ := h
    cases h
    obtain ⟨_, -, rfl⟩ := putRawSnapshot_ok hput
    exact .refl (quiet_of_none rfl)
  | putEffectResult identity payload =>
    simp only [perform, bind_eq_ok] at h
    obtain ⟨⟨reference, _⟩, hput, h⟩ := h
    cases h
    obtain ⟨_, _, -, -, rfl⟩ := putEffectResult_ok hput
    exact .refl (quiet_of_none rfl)
  | appendEgressRecord record =>
    simp only [perform, bind_eq_ok] at h
    obtain ⟨_, happend, h⟩ := h
    cases h
    obtain ⟨_, -, rfl⟩ := appendEgressRecord_ok happend
    exact .refl (quiet_of_none rfl)
  | appendAuditRecord record =>
    simp only [perform, bind_eq_ok] at h
    obtain ⟨_, happend, h⟩ := h
    cases h
    obtain ⟨_, -, rfl⟩ := appendAuditRecord_ok happend
    exact .refl (quiet_of_none rfl)
  | saveEncryptedCredential key envelope =>
    simp only [perform, bind_eq_ok] at h
    obtain ⟨_, hsave, h⟩ := h
    cases h
    obtain ⟨_, rfl, -⟩ := saveEncryptedCredential_ok hsave
    exact .refl (quiet_of_none rfl)

theorem step_moves (h : step env db (now, action) = some (reply, db'))
    (haction : action.cancelsOrPurges = false) :
    ControlMoves now action reply db.controlStates db'.controlStates := by
  rcases step_cases h with hperform | ⟨⟨error, rfl⟩, rfl⟩
  · exact perform_moves hperform haction
  · refine .refl fun agentRunId c d => ?_
    cases action <;> exact nofun

end Moves

/-! ### A paused row has no lease -/

section Idle
variable {env : Environment} {db db' : Store} {now : Instant} {action : Action} {reply : Reply}

/-- No controller is left on a row that waits to be resumed. -/
def Idle (db : Store) : Prop :=
  ∀ row ∈ db.controlStates, row.state.isPaused = true → row.controllerId = none

theorem ControlMove.idle {agentRunId : String} {old : Option ControlState} {row : ControlState}
    (h : ControlMove now action reply agentRunId old (some row))
    (hold : ∀ r ∈ old, r.state.isPaused = true → r.controllerId = none)
    (hpaused : row.state.isPaused = true) : row.controllerId = none := by
  cases h with
  | kept => exact hold row rfl hpaused
  | saved hby hquiet hcontroller => exact hcontroller
  | linked hby hquiet hrunning =>
    simp only [linkSnapshot, hrunning] at hpaused
    cases hpaused
  | acquired hby hopen hfree hstate =>
    rw [hstate] at hpaused
    cases hpaused
  | completed => rfl
  | cancelled hby hquiet hopen hcancelled hcontroller => exact hcontroller

/-- The row that a cancellation of the task leaves is not paused. -/
theorem Idle.cancels {states : Table ControlState.agentRunId} {agentRunId : String} (h : Idle db)
    (hcancels : CancelsRow db.controlStates states agentRunId) :
    ∀ row ∈ states, row.state.isPaused = true → row.controllerId = none := by
  intro row hrow hpaused
  by_cases hsame : row.agentRunId = agentRunId
  · obtain ⟨cancelled, hfound, hstate⟩ := hcancels.cancelled
    obtain ⟨hmem, hkey⟩ := Table.find?_eq_some.mp hfound
    obtain rfl := Table.eq_of_key_eq hrow hmem (hsame.trans hkey.symm)
    rw [hstate] at hpaused
    cases hpaused
  · have hselected : row ∈ states.select fun row => row.agentRunId ≠ agentRunId :=
      Table.mem_select.mpr ⟨hrow, decide_eq_true hsame⟩
    rw [hcancels.elsewhere] at hselected
    exact h row (Table.mem_select.mp hselected).1 hpaused

theorem Idle.step (h : Idle db) (hstep : step env db (now, action) = some (reply, db')) :
    Idle db' := by
  intro row hrow hpaused
  by_cases haction : action.cancelsOrPurges = false
  · have hmove := step_moves hstep haction row.agentRunId
    rw [Table.find?_of_mem hrow] at hmove
    refine hmove.idle (fun r hr => ?_) hpaused
    exact h r (Table.find?_eq_some.mp hr).1
  · rcases step_cases hstep with hperform | ⟨-, rfl⟩
    · cases action with
      | requestRuntimeCancel input =>
        simp only [perform, bind_eq_ok] at hperform
        obtain ⟨⟨status, _⟩, hrequest, hperform⟩ := hperform
        cases hperform
        rcases requestRuntimeCancel_ok hrequest with rfl |
          ⟨operation, controlRequests, controlStates, -, -, -, hcancels, happends⟩
        · exact h row hrow hpaused
        · rw [happends.controlStates] at hrow
          exact h.cancels hcancels row hrow hpaused
      | purgePrivateDataForOwner ownerUserId =>
        simp only [perform, bind_eq_ok] at hperform
        obtain ⟨⟨result, _⟩, hpurge, hperform⟩ := hperform
        cases hperform
        obtain rfl := purgePrivateDataForOwner_ok hpurge
        exact h row (Table.mem_deleteWhere.mp hrow).1 hpaused
      | _ => exact absurd rfl haction
    · exact h row hrow hpaused

theorem idle_of_run {es : List (Entry Store (Instant × Action) Reply)}
    (h : Run (step env) Store.empty es db) : Idle db := by
  refine h.invariant (G := fun _ _ => True) ?_ (fun _ _ => trivial)
    fun row hrow => absurd hrow (Table.not_mem_empty row)
  intro s t a r hs _ hstep
  exact hs.step hstep

end Idle

/-! ### Leases of one run do not overlap -/

section Runs
variable {env : Environment} {db db' : Store} {agentRunId controllerId : String}
  {fs : List (Entry Store (Instant × Action) Reply)}

/-- The entries of a run of the runtime store. -/
def RuntimeOnly (fs : List (Entry Store (Instant × Action) Reply)) : Prop :=
  ∀ e ∈ fs, e.label.2.cancelsOrPurges = false

/-- The entry acquires the row of the run for the controller. -/
def acquiresFor (agentRunId controllerId : String)
    (e : Entry Store (Instant × Action) Reply) : Bool :=
  (e.label.2.acquires e.reply).any fun acquired =>
    acquired.1 = agentRunId && acquired.2.1 = controllerId

/-- The entry is a completion that the controller issues for the run. -/
def completesFor (agentRunId controllerId : String)
    (e : Entry Store (Instant × Action) Reply) : Bool :=
  match e.label.2 with
  | .completeRuntimeControl run controller _ _ _ _ => run = agentRunId && controller = controllerId
  | _ => false

theorem acquiresFor_eq_true {e : Entry Store (Instant × Action) Reply} :
    acquiresFor agentRunId controllerId e = true ↔
      ∃ leaseDurationMs, e.label.2.acquires e.reply =
        some (agentRunId, controllerId, leaseDurationMs) := by
  unfold acquiresFor
  rw [Option.any_eq_true]
  constructor
  · rintro ⟨⟨run, controller, leaseDurationMs⟩, hacquires, hboth⟩
    simp only [Bool.and_eq_true, decide_eq_true_eq] at hboth
    obtain ⟨rfl, rfl⟩ := hboth
    exact ⟨leaseDurationMs, hacquires⟩
  · rintro ⟨leaseDurationMs, hacquires⟩
    exact ⟨_, hacquires, by simp⟩

theorem clockAdvances_cons {e : Entry Store (Instant × Action) Reply} :
    clockAdvances (e :: fs) = true ↔
      (∀ later ∈ fs, e.label.1 ≤ later.label.1) ∧ clockAdvances fs = true := by
  simp only [clockAdvances, List.map_cons, List.pairwise_cons, decide_eq_true_eq, List.mem_map,
    forall_exists_index, and_imp, forall_apply_eq_imp_iff₂]

/-- A controller is named by the row only if it acquires it or was named before. -/
theorem ControlMove.named {now : Instant} {action : Action} {reply : Reply}
    {before : Option ControlState} {row : ControlState}
    (h : ControlMove now action reply agentRunId before (some row))
    (hnamed : row.controllerId = some controllerId) :
    (∃ d, action.acquires reply = some (agentRunId, controllerId, d)) ∨
      ∃ old, before = some old ∧ old.controllerId = some controllerId := by
  cases h with
  | kept => exact .inr ⟨row, rfl, hnamed⟩
  | saved hby hquiet hcontroller =>
    rw [hcontroller] at hnamed
    cases hnamed
  | linked => exact .inr ⟨_, rfl, hnamed⟩
  | acquired hby hopen hfree hstate hcontroller =>
    obtain rfl := Option.some.inj (hcontroller.symm.trans hnamed)
    exact .inl ⟨_, hby⟩
  | completed => cases hnamed
  | cancelled hby hquiet hopen hcancelled hcontroller =>
    rw [hcontroller] at hnamed
    cases hnamed

/-- A row is acquired while it is open and its lease, if it is another's, has ended. -/
theorem ControlMove.free {now : Instant} {action : Action} {reply : Reply} {row : ControlState}
    {after : Option ControlState} {d : Nat}
    (h : ControlMove now action reply agentRunId (some row) after)
    (hby : action.acquires reply = some (agentRunId, controllerId, d)) :
    row.state.isTerminal = false ∧ (row.state = .running → row.controllerId ≠ some controllerId →
      (row.leaseExpiresAt.any fun expiry => now < expiry) = false) := by
  cases h with
  | acquired hby' hopen hfree =>
    cases hby.symm.trans hby'
    exact ⟨hopen row rfl, hfree row rfl⟩
  | kept _ hquiet => exact absurd hby (hquiet _ _)
  | linked _ hquiet => exact absurd hby (hquiet _ _)
  | completed _ hquiet => exact absurd hby (hquiet _ _)
  | cancelled _ hquiet => exact absurd hby (hquiet _ _)

/-- A completion that changes the row is issued by the controller that it names. -/
theorem ControlMove.of_completion {now : Instant} {reply : Reply}
    {before after : Option ControlState} {expectedSnapshotId nextSnapshotId : Option String} {state : RuntimeControlState}
    {runEvents : List RunEvent}
    (h : ControlMove now (.completeRuntimeControl agentRunId controllerId expectedSnapshotId
      nextSnapshotId state runEvents) reply agentRunId before after) (hchanged : after ≠ before) :
    ∃ row, before = some row ∧ row.state = .running ∧ row.controllerId = some controllerId ∧
      row.snapshotId = expectedSnapshotId := by
  cases h with
  | kept => exact absurd rfl hchanged
  | saved hby => cases hby
  | linked hby => cases hby
  | acquired hby => cases hby
  | completed hby hquiet hcompletable =>
    cases hby
    simp only [ControlState.completableBy, Bool.and_eq_true, decide_eq_true_eq] at hcompletable
    exact ⟨_, rfl, hcompletable.1.2, hcompletable.2, hcompletable.1.1⟩
  | cancelled hby => cases hby

/-- What a controller has lost it changes by no completion until it acquires it again. -/
theorem kept_of_superseded (h : Run (step env) db fs db') (hruntime : RuntimeOnly fs)
    (hnamed : ∀ row, db.controlStates.find? agentRunId = some row →
      row.controllerId ≠ some controllerId)
    (hacquires : ∀ e ∈ fs, acquiresFor agentRunId controllerId e = false) :
    ∀ e ∈ fs, completesFor agentRunId controllerId e = true →
      e.after.controlStates.find? agentRunId = e.before.controlStates.find? agentRunId := by
  induction h with
  | nil => exact List.forall_mem_nil _
  | @cons s t u a r es hstep hrun ih =>
    obtain ⟨now, action⟩ := a
    rw [List.forall_mem_cons] at hacquires ⊢
    obtain ⟨hfirst, hruntime⟩ := List.forall_mem_cons.mp hruntime
    have hmove := step_moves hstep hfirst agentRunId
    constructor
    · intro hcompletes
      unfold completesFor at hcompletes
      split at hcompletes
      · rename_i run controller expected next state runEvents heq
        simp only at heq
        simp only [Bool.and_eq_true, decide_eq_true_eq] at hcompletes
        obtain ⟨rfl, rfl⟩ := hcompletes
        rw [heq] at hmove
        by_contra hchanged
        obtain ⟨row, hrow, -, hcontroller, -⟩ := hmove.of_completion hchanged
        exact hnamed row hrow hcontroller
      · cases hcompletes
    · refine ih hruntime (fun row hrow hcontroller => ?_) hacquires.2
      rw [hrow] at hmove
      rcases hmove.named hcontroller with hby | ⟨old, hold, hcontroller'⟩
      · rw [acquiresFor_eq_true.mpr hby] at hacquires
        cases hacquires.1
      · exact hnamed old hold hcontroller'

/-- A row that has reached a terminal state stays as it is. -/
theorem ControlMove.terminal {now : Instant} {action : Action} {reply : Reply}
    {row : ControlState} {after : Option ControlState}
    (h : ControlMove now action reply agentRunId (some row) after)
    (hterminal : row.state.isTerminal = true) :
    after = some row ∧ ∀ c d, action.acquires reply ≠ some (agentRunId, c, d) := by
  cases h with
  | kept _ hquiet => exact ⟨rfl, hquiet⟩
  | linked hby hquiet hrunning =>
    rw [hrunning] at hterminal
    cases hterminal
  | acquired hby hopen =>
    rw [hopen row rfl] at hterminal
    cases hterminal
  | completed hby hquiet hrow =>
    simp only [ControlState.completableBy, Bool.and_eq_true, decide_eq_true_eq] at hrow
    rw [hrow.1.2] at hterminal
    cases hterminal
  | cancelled hby hquiet hopen =>
    rw [hopen] at hterminal
    cases hterminal

theorem terminal_of_run {row : ControlState} (h : Run (step env) db fs db')
    (hruntime : RuntimeOnly fs) (hrow : db.controlStates.find? agentRunId = some row)
    (hterminal : row.state.isTerminal = true) :
    db'.controlStates.find? agentRunId = some row ∧
      ∀ e ∈ fs, acquiresFor agentRunId controllerId e = false := by
  induction h with
  | nil => exact ⟨hrow, List.forall_mem_nil _⟩
  | cons hstep _ ih =>
    have hmove := step_moves hstep (hruntime _ List.mem_cons_self) agentRunId
    rw [hrow] at hmove
    obtain ⟨hafter, hquiet⟩ := hmove.terminal hterminal
    obtain ⟨hend, hrest⟩ := ih (fun e he => hruntime e (List.mem_cons_of_mem _ he)) hafter
    refine ⟨hend, List.forall_mem_cons.mpr ⟨?_, hrest⟩⟩
    rw [Bool.eq_false_iff, ne_eq, acquiresFor_eq_true]
    rintro ⟨leaseDurationMs, hacquires⟩
    exact hquiet _ _ hacquires

/-- Until its lease ends, the row of a controller that neither renews nor completes goes to
nobody else. -/
theorem expiry_le_of_acquired {row : ControlState} {expiry : Instant}
    (h : Run (step env) db fs db') (hclock : clockAdvances fs = true)
    (hruntime : RuntimeOnly fs) (hrow : db.controlStates.find? agentRunId = some row)
    (hrunning : row.state = .running) (hcontroller : row.controllerId = some controllerId)
    (hexpiry : row.leaseExpiresAt = some expiry)
    (hown : ∀ e ∈ fs, acquiresFor agentRunId controllerId e = false ∧
      completesFor agentRunId controllerId e = false)
    {other : String} (hother : other ≠ controllerId) :
    ∀ e ∈ fs, acquiresFor agentRunId other e = true → expiry ≤ e.label.1 := by
  induction h generalizing row with
  | nil => exact List.forall_mem_nil _
  | @cons s t u a r es hstep hrun ih =>
    obtain ⟨now, action⟩ := a
    rw [clockAdvances_cons] at hclock
    rw [List.forall_mem_cons] at hown ⊢
    obtain ⟨hlater, hclock⟩ := hclock
    obtain ⟨hfirst, hruntime⟩ := List.forall_mem_cons.mp hruntime
    by_cases hended : expiry ≤ now
    · exact ⟨fun _ => hended, fun e he _ => hended.trans (hlater e he)⟩
    have hmove := step_moves hstep hfirst agentRunId
    rw [hrow] at hmove
    -- the lease is still running, so only its holder or a cancellation can end it
    have hcases : (∀ c d, action.acquires r ≠ some (agentRunId, c, d)) ∧
        ∃ next, t.controlStates.find? agentRunId = some next ∧
          (next.state = .cancelled ∨ next.state = .running ∧
            next.controllerId = some controllerId ∧ next.leaseExpiresAt = some expiry) := by
      generalize hafter : t.controlStates.find? agentRunId = after at hmove
      cases hmove with
      | kept _ hquiet =>
        exact ⟨hquiet, row, rfl, .inr ⟨hrunning, hcontroller, hexpiry⟩⟩
      | linked hby hquiet =>
        exact ⟨hquiet, _, rfl, .inr ⟨hrunning, hcontroller, hexpiry⟩⟩
      | @acquired _ _ c d hby hopen hfree =>
        have hc : c ≠ controllerId := by
          rintro rfl
          rw [acquiresFor_eq_true.mpr ⟨d, hby⟩] at hown
          cases hown.1.1
        have hbusy := hfree row rfl hrunning fun hsame =>
          hc (Option.some.inj (hsame.symm.trans hcontroller))
        rw [hexpiry, Option.any_some, decide_eq_false_iff_not] at hbusy
        exact absurd (not_le.mp hended) hbusy
      | @completed _ c expected next state runEvents hby hquiet hcompletable =>
        simp only [ControlState.completableBy, Bool.and_eq_true, decide_eq_true_eq]
          at hcompletable
        obtain rfl := Option.some.inj (hcompletable.2.symm.trans hcontroller)
        have hcompletes := hown.1.2
        simp [completesFor, hby] at hcompletes
      | cancelled hby hquiet hopen hcancelled => exact ⟨hquiet, _, rfl, .inl hcancelled⟩
    obtain ⟨hquiet, next, hnext, hnow⟩ := hcases
    refine ⟨fun hacquires => ?_, ?_⟩
    · obtain ⟨d, hby⟩ := acquiresFor_eq_true.mp hacquires
      exact absurd hby (hquiet other d)
    · rcases hnow with hcancelled | ⟨hrunning', hcontroller', hexpiry'⟩
      · have hterminal : next.state.isTerminal = true := by
          rw [hcancelled]
          rfl
        intro e he hacquires
        rw [(terminal_of_run hrun hruntime hnext hterminal).2 e he] at hacquires
        cases hacquires
      · exact ih hclock hruntime hnext hrunning' hcontroller' hexpiry' hown.2

/-- What holds of the control row of a run and of one of its controllers, from a state on. -/
structure SingleController (agentRunId controllerId : String) (db db' : Store)
    (fs : List (Entry Store (Instant × Action) Reply)) : Prop where
  /-- The row is acquired only when no other controller's lease on it is running. -/
  acquired : ∀ e ∈ fs, acquiresFor agentRunId controllerId e = true →
    ∀ row, e.before.controlStates.find? agentRunId = some row →
      ∀ other, other ≠ controllerId → row.leasedTo other e.label.1 = false
  /-- A controller that the row names has acquired it. -/
  named : ∀ e ∈ fs, ∀ row, e.after.controlStates.find? agentRunId = some row →
    row.controllerId = some controllerId →
      acquiresFor agentRunId controllerId e = true ∨
        ∃ old, e.before.controlStates.find? agentRunId = some old ∧
          old.controllerId = some controllerId
  /-- At each moment one controller holds the row. -/
  holder : ∀ now other, ∀ row ∈ db'.controlStates, ∀ row' ∈ db'.controlStates,
    row.agentRunId = agentRunId → row'.agentRunId = agentRunId →
      row.heldBy controllerId now = true → row'.heldBy other now = true → other = controllerId
  /-- Its lease ends, or it renews or completes, before another one acquires the row. -/
  lease : ∀ row expiry, db.controlStates.find? agentRunId = some row → row.state = .running →
    row.controllerId = some controllerId → row.leaseExpiresAt = some expiry →
      (∀ e ∈ fs, acquiresFor agentRunId controllerId e = false ∧
        completesFor agentRunId controllerId e = false) →
      ∀ other, other ≠ controllerId → ∀ e ∈ fs, acquiresFor agentRunId other e = true →
        expiry ≤ e.label.1
  /-- A completion changes the row only for the controller and the snapshot recorded on it. -/
  completed : ∀ e ∈ fs, ∀ expected next state runEvents,
    e.label.2 = .completeRuntimeControl agentRunId controllerId expected next state runEvents →
      e.after.controlStates.find? agentRunId ≠ e.before.controlStates.find? agentRunId →
      ∃ row, e.before.controlStates.find? agentRunId = some row ∧ row.state = .running ∧
        row.controllerId = some controllerId ∧ row.snapshotId = expected
  /-- A superseded controller completes nothing unless it acquires the row again. -/
  superseded : (∀ row, db.controlStates.find? agentRunId = some row →
      row.controllerId ≠ some controllerId) →
    (∀ e ∈ fs, acquiresFor agentRunId controllerId e = false) →
    ∀ e ∈ fs, completesFor agentRunId controllerId e = true →
      e.after.controlStates.find? agentRunId = e.before.controlStates.find? agentRunId
  /-- Nothing changes a cancelled row. -/
  cancelled : ∀ row, db.controlStates.find? agentRunId = some row → row.state = .cancelled →
    db'.controlStates.find? agentRunId = some row

/-- The controllers of a run exclude one another, whatever the order of the calls. -/
theorem single_runtime_controller {es : List (Entry Store (Instant × Action) Reply)}
    (h : Run (step env) Store.empty es db) (h' : Run (step env) db fs db')
    (hclock : clockAdvances fs = true) (hruntime : RuntimeOnly fs)
    (agentRunId controllerId : String) :
    SingleController agentRunId controllerId db db' fs where
  acquired e he hacquires row hrow other hother := by
    have hidle : Idle e.before := by
      refine (h'.invariant_entry (G := fun _ _ => True) ?_ (fun _ _ => trivial)
        (idle_of_run h) he).1
      intro s t a r hs _ hstep
      exact hs.step hstep
    have hmove := step_moves (h'.entry_step he) (hruntime e he) agentRunId
    obtain ⟨d, hby⟩ := acquiresFor_eq_true.mp hacquires
    rw [hrow] at hmove
    rw [ControlState.leasedTo, Bool.and_eq_false_imp, decide_eq_true_eq]
    intro hcontroller
    obtain ⟨hopen, hfree⟩ := hmove.free hby
    by_cases hrunning : row.state = .running
    · refine hfree hrunning fun hsame => hother ?_
      exact Option.some.inj (hcontroller.symm.trans hsame)
    · have hpaused : row.state.isPaused = true := by
        cases hstate : row.state <;>
          simp_all [RuntimeControlState.isPaused, RuntimeControlState.isTerminal]
      rw [hidle row (Table.find?_eq_some.mp hrow).1 hpaused] at hcontroller
      cases hcontroller
  named e he row hrow hcontroller := by
    have hmove := step_moves (h'.entry_step he) (hruntime e he) agentRunId
    rw [hrow] at hmove
    rcases hmove.named hcontroller with hby | hold
    · exact .inl (acquiresFor_eq_true.mpr hby)
    · exact .inr hold
  holder now other row hrow row' hrow' hrun hrun' hheld hheld' := by
    obtain rfl := Table.eq_of_key_eq hrow hrow' (hrun.trans hrun'.symm)
    simp only [ControlState.heldBy, ControlState.leasedTo, Bool.and_eq_true,
      decide_eq_true_eq] at hheld hheld'
    exact Option.some.inj (hheld'.2.1.symm.trans hheld.2.1)
  lease row expiry hrow hrunning hcontroller hexpiry hown other hother :=
    expiry_le_of_acquired h' hclock hruntime hrow hrunning hcontroller hexpiry hown hother
  completed e he expected next state runEvents hlabel hchanged := by
    have hmove := step_moves (h'.entry_step he) (hruntime e he) agentRunId
    rw [hlabel] at hmove
    exact hmove.of_completion hchanged
  superseded hnamed hacquires := kept_of_superseded h' hruntime hnamed hacquires
  cancelled row hrow hcancelled := by
    have hterminal : row.state.isTerminal = true := by
      rw [hcancelled]
      rfl
    have hkept : db'.controlStates.find? agentRunId = some row ∧
        ∀ e ∈ fs, acquiresFor agentRunId controllerId e = false :=
      terminal_of_run h' hruntime hrow hterminal
    exact hkept.1

end Runs

/-! ### A controller that comes back -/

def controllerOf (db : Store) (agentRunId : String) : Option String :=
  (db.controlStates.find? agentRunId).bind ControlState.controllerId

/-- Controller `b` takes the row over when the lease of `a` ends, and loses it to `a`. -/
def returningSchedule : List (Instant × Action) :=
  [(0, .recordRuntimeRunning "run" "a" 10),
   (10, .recordRuntimeRunning "run" "b" 10),
   (20, .recordRuntimeRunning "run" "a" 10),
   (21, .completeRuntimeControl "run" "a" none none .completed [])]

/-- A superseded controller acquires the row again and completes it. -/
theorem superseded_returns :
    ∃ pre e post db, Run (step sampleEnv) Store.empty (pre ++ e :: post) db ∧
      clockAdvances (pre ++ e :: post) = true ∧ RuntimeOnly (pre ++ e :: post) ∧
      controllerOf e.before "run" = some "a" ∧ controllerOf e.after "run" = some "b" ∧
      ∃ later ∈ post, completesFor "run" "a" later = true ∧
        later.after.controlStates.find? "run" ≠ later.before.controlStates.find? "run" := by
  have hexec : (exec (step sampleEnv) Store.empty returningSchedule).any (cutAt 1
      fun pre e post => clockAdvances (pre ++ e :: post) &&
        ((pre ++ e :: post).all fun e => !e.label.2.cancelsOrPurges) &&
        decide (controllerOf e.before "run" = some "a") &&
        decide (controllerOf e.after "run" = some "b") &&
        post.any fun later => completesFor "run" "a" later &&
          decide (later.after.controlStates.find? "run" ≠
            later.before.controlStates.find? "run")) = true := by
    decide +kernel
  obtain ⟨pre, e, post, db, hrun, hcheck⟩ := exists_cut_of_exec hexec
  simp only [Bool.and_eq_true, List.all_eq_true, Bool.not_eq_true', List.any_eq_true,
    decide_eq_true_eq] at hcheck
  obtain ⟨⟨⟨⟨hclock, hruntime⟩, hbefore⟩, hafter⟩, later, hlater, hcompletes, hchanged⟩ := hcheck
  exact ⟨pre, e, post, db, hrun, hclock, hruntime, hbefore, hafter, later, hlater, hcompletes,
    hchanged⟩

/-- Controller `a` tries to complete the row that `b` has taken over. -/
def supersededSchedule : List (Instant × Action) :=
  returningSchedule.take 2 ++ [(11, .completeRuntimeControl "run" "a" none none .completed [])]

theorem single_runtime_controller_superseded :
    ∃ es fs db db', Run (step sampleEnv) Store.empty es db ∧ Run (step sampleEnv) db fs db' ∧
      controllerOf db "run" = some "b" ∧ fs.length = 1 ∧
      ∀ e ∈ fs, completesFor "run" "a" e = true ∧
        e.after.controlStates.find? "run" = e.before.controlStates.find? "run" := by
  have hexec : (exec (step sampleEnv) Store.empty supersededSchedule).any (cutAt 2
      fun _ e post => decide (controllerOf e.before "run" = some "b") && post.isEmpty &&
        !e.label.2.cancelsOrPurges && completesFor "run" "a" e &&
        !acquiresFor "run" "a" e) = true := by
    decide +kernel
  obtain ⟨es, e, post, db', hrun, hcheck⟩ := exists_cut_of_exec hexec
  simp only [Bool.and_eq_true, decide_eq_true_eq, List.isEmpty_iff, Bool.not_eq_true'] at hcheck
  obtain ⟨⟨⟨⟨hbefore, rfl⟩, hruntime⟩, hcompletes⟩, hacquires⟩ := hcheck
  obtain ⟨db, hpre, hrest⟩ := hrun.split
  have hsame : e.before = db := by
    cases hrest
    rfl
  have hsuperseded := (single_runtime_controller hpre hrest rfl
    (List.forall_mem_singleton.mpr hruntime) "run" "a").superseded
  refine ⟨es, [e], db, db', hpre, hrest, hsame ▸ hbefore, rfl, fun later hlater => ?_⟩
  obtain rfl := List.mem_singleton.mp hlater
  refine ⟨hcompletes, hsuperseded ?_ (List.forall_mem_singleton.mpr hacquires) later hlater
    hcompletes⟩
  intro row hrow hnamed
  rw [hsame, controllerOf, hrow, Option.bind_some, hnamed] at hbefore
  exact absurd hbefore (by decide)

end ChoiceMind.TaskPersistence
