import ChoiceMind.TaskPersistence.Changes

/-!
# Agent runs of operations

Run ids are drawn once, no two operations share a current run, and a stored pause is one
of the current run. These facts hold in every reachable state.
-/

namespace ChoiceMind.TaskPersistence

set_option autoImplicit false

open Contracts Transition

variable {env : Environment}

/-- The run id was drawn before. -/
def Issued (env : Environment) (db : Store) (agentRunId : String) : Prop :=
  ∃ k < db.uuidsDrawn, agentRunId = "agent-run-" ++ env.randomUUID k

theorem Issued.mono {db db' : Store} {agentRunId : String} (h : Issued env db agentRunId)
    (hdrawn : db.uuidsDrawn ≤ db'.uuidsDrawn) : Issued env db' agentRunId := by
  obtain ⟨k, hk, heq⟩ := h
  exact ⟨k, lt_of_lt_of_le hk hdrawn, heq⟩

theorem Issued.ne_fresh {db : Store} {agentRunId : String} (h : Issued env db agentRunId) :
    agentRunId ≠ "agent-run-" ++ env.randomUUID db.uuidsDrawn := by
  obtain ⟨k, hk, rfl⟩ := h
  intro heq
  have hindex := env.randomUUID_injective ((String.append_right_inj _).mp heq)
  omega

theorem issued_fresh {db db' : Store} (hdrawn : db.uuidsDrawn < db'.uuidsDrawn) :
    Issued env db' ("agent-run-" ++ env.randomUUID db.uuidsDrawn) :=
  ⟨db.uuidsDrawn, hdrawn, rfl⟩

/-- The snapshot of a pause is one of the operation's current run. -/
structure Operation.namesRun (row : Operation) (paused : RuntimePausedOutcome) : Prop where
  agentRunId : paused.snapshot.agentRunId = row.agentRunId
  decisionTaskId : paused.snapshot.decisionTaskId = row.decisionTaskId

/-- Runs are told apart by their ids, and a stored pause is one of the current run. -/
structure RunsKnown (env : Environment) (db : Store) : Prop where
  issued : ∀ row ∈ db.operations, Issued env db row.agentRunId
  unique : ∀ row ∈ db.operations, ∀ other ∈ db.operations,
    row.agentRunId = other.agentRunId → row = other
  paused : ∀ row ∈ db.operations, ∀ paused, decodePausedPayload row.resultPayload = some paused →
    row.namesRun paused ∧ row.state ≠ .failedRetryable

theorem runsKnown_empty : RunsKnown env Store.empty where
  issued := by
    intro row hrow
    cases hrow
  unique := by
    intro row hrow
    cases hrow
  paused := by
    intro row hrow
    cases hrow

section Runs
variable {db db' : Store} {now : Instant} {action : Action} {reply : Reply}

/-- Deleting operations and drawing UUIDs keep the invariant. -/
theorem RunsKnown.of_subset (h : RunsKnown env db)
    (hops : ∀ row ∈ db'.operations, row ∈ db.operations)
    (hdrawn : db.uuidsDrawn ≤ db'.uuidsDrawn) : RunsKnown env db' where
  issued row hrow := (h.issued row (hops row hrow)).mono hdrawn
  unique row hrow other hother := h.unique row (hops row hrow) other (hops other hother)
  paused row hrow := h.paused row (hops row hrow)

/-- An operation may keep its run or get a fresh one. -/
theorem RunsKnown.update (h : RunsKnown env db) {operationId : String} {f : Operation → Operation}
    {hf : ∀ row, (f row).operationId = row.operationId}
    (hops : db'.operations = db.operations.update operationId f hf)
    (hdrawn : db.uuidsDrawn ≤ db'.uuidsDrawn)
    (hrun : ∀ row ∈ db.operations, row.operationId = operationId →
      (f row).agentRunId = row.agentRunId ∨
        ((f row).agentRunId = "agent-run-" ++ env.randomUUID db.uuidsDrawn ∧
          db.uuidsDrawn < db'.uuidsDrawn))
    (hpaused : ∀ row ∈ db.operations, row.operationId = operationId → ∀ paused,
      decodePausedPayload (f row).resultPayload = some paused →
      (f row).namesRun paused ∧ (f row).state ≠ .failedRetryable) :
    RunsKnown env db' := by
  -- the run of the changed row is that of no other row
  have hapart : ∀ row ∈ db.operations, row.operationId = operationId → ∀ other ∈ db.operations,
      (f row).agentRunId = other.agentRunId → other.operationId = operationId := by
    intro row hrow hkey other hother hsame
    rcases hrun row hrow hkey with hkeep | ⟨hfresh, -⟩
    · rw [← h.unique row hrow other hother (hkeep ▸ hsame)]
      exact hkey
    · exact absurd (hsame ▸ hfresh) (h.issued other hother).ne_fresh
  constructor
  · intro row hrow
    rw [hops] at hrow
    obtain ⟨old, hold, rfl⟩ := Table.mem_update.mp hrow
    split
    · rename_i hkey
      rcases hrun old hold hkey with hkeep | ⟨hfresh, hlt⟩
      · rw [hkeep]
        exact (h.issued old hold).mono hdrawn
      · rw [hfresh]
        exact issued_fresh hlt
    · exact (h.issued old hold).mono hdrawn
  · intro row hrow other hother hsame
    rw [hops] at hrow hother
    obtain ⟨old, hold, rfl⟩ := Table.mem_update.mp hrow
    obtain ⟨old', hold', rfl⟩ := Table.mem_update.mp hother
    split at hsame <;> split at hsame
    · rename_i hkey hkey'
      rw [Table.eq_of_key_eq hold hold' (hkey.trans hkey'.symm)]
    · rename_i hkey hkey'
      exact absurd (hapart old hold hkey old' hold' hsame) hkey'
    · rename_i hkey hkey'
      exact absurd (hapart old' hold' hkey' old hold hsame.symm) hkey
    · rename_i hkey hkey'
      rw [if_neg hkey, if_neg hkey']
      exact h.unique old hold old' hold' hsame
  · intro row hrow
    rw [hops] at hrow
    obtain ⟨old, hold, rfl⟩ := Table.mem_update.mp hrow
    split
    · rename_i hkey
      exact hpaused old hold hkey
    · exact h.paused old hold

theorem RunsKnown.change (h : RunsKnown env db) (hchange : Change env db now action reply db') :
    RunsKnown env db' := by
  cases hchange with
  | frame hsame hreply =>
    refine h.of_subset ?_ hsame.drawn_le
    rw [hsame.operations]
    exact fun row hrow => hrow
  | submitted hops hreqs hdrawn hruns =>
    constructor
    · intro row hrow
      rcases (Table.mem_insert? hops).mp hrow with hold | rfl
      · exact (h.issued row hold).mono (Nat.le_of_lt hdrawn)
      · exact issued_fresh hdrawn
    · intro row hrow other hother hsame
      rcases (Table.mem_insert? hops).mp hrow with hold | rfl <;>
        rcases (Table.mem_insert? hops).mp hother with hold' | rfl
      · exact h.unique row hold other hold' hsame
      · exact absurd hsame (h.issued row hold).ne_fresh
      · exact absurd hsame.symm (h.issued other hold').ne_fresh
      · rfl
    · intro row hrow paused hpaused
      rcases (Table.mem_insert? hops).mp hrow with hold | rfl
      · exact h.paused row hold paused hpaused
      · cases hpaused
  | @claimed workerId leaseDurationMs claim row _ hrow hclaimable hops hreqs hrun =>
    obtain ⟨hmem, hkey⟩ := Table.find?_eq_some.mp hrow
    have honly : ∀ old ∈ db.operations, old.operationId = claim.operationId → old = row :=
      fun old hold hsame => Table.eq_of_key_eq hold hmem (hsame.trans hkey.symm)
    cases hrun with
    | current hstate hrun hdrawn hruns =>
      refine h.update hops hdrawn ?_ ?_
      · intro old hold hsame
        rw [honly old hold hsame]
        exact .inl hrun
      · intro old hold hsame paused hpaused
        rw [honly old hold hsame] at hpaused ⊢
        have hnames := (h.paused row hmem paused hpaused).1
        exact ⟨⟨hnames.agentRunId.trans hrun.symm, hnames.decisionTaskId⟩,
          by simp [leaseOperation]⟩
    | retried hstate hrun hdrawn hruns =>
      refine h.update hops (Nat.le_of_lt hdrawn) (fun _ _ _ => .inr ⟨hrun, hdrawn⟩) ?_
      intro old hold hsame paused hpaused
      rw [honly old hold hsame] at hpaused
      exact absurd hstate (h.paused row hmem paused hpaused).2
  | controlRejected hrequest hclaimable hops hreqs hdrawn hruns =>
    refine h.of_subset ?_ hdrawn
    rw [hops]
    exact fun row hrow => hrow
  | controlClaimed hrequest hclaimable hoperation hconsistent hops hreqs hclaim hrun hdrawn hruns =>
    refine h.update hops hdrawn (fun _ _ _ => .inl rfl) ?_
    intro old hold hsame paused hpaused
    have hnames := (h.paused old hold paused hpaused).1
    exact ⟨⟨hnames.agentRunId, hnames.decisionTaskId⟩, by simp [leaseOperation]⟩
  | @completed operationId workerId outcome controlRequestId completion row decoded settle _
      hrow hdecoded hcompletable hsettle hcommitted hops hreqs hdrawn hruns =>
    obtain ⟨hmem, hkey⟩ := Table.find?_eq_some.mp hrow
    refine h.update hops hdrawn (fun old _ _ => .inl (hsettle.agentRunId old)) ?_
    intro old hold hsame paused hpaused
    obtain rfl := Table.eq_of_key_eq hold hmem (hsame.trans hkey.symm)
    obtain ⟨hnamed, htask⟩ := hsettle.paused old paused hpaused
    constructor
    · simp only [Operation.completableBy, hnamed, htask, Option.all_some, Bool.and_eq_true,
        decide_eq_true_eq] at hcompletable
      constructor
      · rw [hsettle.agentRunId, hcompletable.1.2]
      · rw [hsettle.decisionTaskId, hcompletable.2]
    · intro hstate
      rw [hsettle.state] at hstate
      rw [decodePersistentOutcome_retryable hdecoded hstate] at hnamed
      cases hnamed
  | resumeRequested hoperation hpaused hops hreqs hdrawn hruns =>
    refine h.of_subset ?_ hdrawn
    rw [hops]
    exact fun row hrow => hrow
  | cancelled hoperation hops hreqs hdrawn hruns =>
    refine h.update hops hdrawn (fun _ _ _ => .inl rfl) ?_
    intro old hold hsame paused hpaused
    cases hpaused
  | purged hops hreqs hruns hevents hdrawn =>
    refine h.of_subset ?_ hdrawn
    rw [hops]
    exact fun row hrow => (Table.mem_deleteWhere.mp hrow).1

/-- A consistent request is about the current run of its operation. -/
theorem RunsKnown.consistent (hknown : RunsKnown env db) {row : RuntimeControlClaimRow}
    (hoperation : row.operation ∈ db.operations) (h : row.consistent = true) :
    row.request.agentRunId = row.operation.agentRunId ∧
      row.request.decisionTaskId = row.operation.decisionTaskId := by
  unfold RuntimeControlClaimRow.consistent at h
  simp only [Bool.and_eq_true, Option.any_eq_true, decide_eq_true_eq] at h
  obtain ⟨⟨-, paused, hpaused, ⟨-, hrun⟩, htask⟩, -⟩ := h
  have hnames := (hknown.paused row.operation hoperation paused hpaused).1
  exact ⟨hrun.symm.trans hnames.agentRunId, htask.symm.trans hnames.decisionTaskId⟩

theorem ClaimedRun.drawn_le {row : Operation} {claimedRunId : String}
    (h : ClaimedRun env db row claimedRunId db') : db.uuidsDrawn ≤ db'.uuidsDrawn := by
  cases h with
  | current _ _ hdrawn _ => exact hdrawn
  | retried _ _ hdrawn _ => exact Nat.le_of_lt hdrawn

theorem Change.drawn_le (h : Change env db now action reply db') :
    db.uuidsDrawn ≤ db'.uuidsDrawn := by
  cases h with
  | frame hsame hreply => exact hsame.drawn_le
  | submitted hops hreqs hdrawn hruns => exact Nat.le_of_lt hdrawn
  | claimed hrow hclaimable hops hreqs hrun => exact hrun.drawn_le
  | controlRejected hrequest hclaimable hops hreqs hdrawn hruns => exact hdrawn
  | controlClaimed hrequest hclaimable hoperation hconsistent hops hreqs hclaim hrun hdrawn hruns =>
    exact hdrawn
  | completed hrow hdecoded hcompletable hsettle hcommitted hops hreqs hdrawn hruns => exact hdrawn
  | resumeRequested hoperation hpaused hops hreqs hdrawn hruns => exact hdrawn
  | cancelled hoperation hops hreqs hdrawn hruns => exact hdrawn
  | purged hops hreqs hruns hevents hdrawn => exact hdrawn

/-- The current run of an operation is one that an operation had before, or a fresh one. -/
theorem Change.operation_run (h : Change env db now action reply db') {row : Operation}
    (hrow : row ∈ db'.operations) :
    (∃ old ∈ db.operations, old.agentRunId = row.agentRunId) ∨
      row.agentRunId = "agent-run-" ++ env.randomUUID db.uuidsDrawn := by
  have hupdate : ∀ {operationId : String} {f : Operation → Operation}
      {hf : ∀ row, (f row).operationId = row.operationId},
      row ∈ db.operations.update operationId f hf →
      (∀ old ∈ db.operations, (f old).agentRunId = old.agentRunId) →
      ∃ old ∈ db.operations, old.agentRunId = row.agentRunId := by
    intro operationId f hf hin hkeeps
    obtain ⟨old, hold, rfl⟩ := Table.mem_update.mp hin
    refine ⟨old, hold, ?_⟩
    split
    · exact (hkeeps old hold).symm
    · rfl
  cases h with
  | frame hsame hreply => exact .inl ⟨row, hsame.operations ▸ hrow, rfl⟩
  | submitted hops hreqs hdrawn hruns =>
    rcases (Table.mem_insert? hops).mp hrow with hold | rfl
    · exact .inl ⟨row, hold, rfl⟩
    · exact .inr rfl
  | claimed hfound hclaimable hops hreqs hrun =>
    rw [hops] at hrow
    rcases Table.mem_update_of_find? hfound hrow with rfl | ⟨hold, -⟩
    · cases hrun with
      | current hstate hrun hdrawn hruns =>
        exact .inl ⟨_, (Table.find?_eq_some.mp hfound).1, hrun.symm⟩
      | retried hstate hrun hdrawn hruns => exact .inr hrun
    · exact .inl ⟨row, hold, rfl⟩
  | controlRejected hrequest hclaimable hops hreqs hdrawn hruns =>
    exact .inl ⟨row, hops ▸ hrow, rfl⟩
  | controlClaimed hrequest hclaimable hoperation hconsistent hops hreqs hclaim hrun hdrawn hruns =>
    rw [hops] at hrow
    exact .inl (hupdate hrow fun _ _ => rfl)
  | completed hfound hdecoded hcompletable hsettle hcommitted hops hreqs hdrawn hruns =>
    rw [hops] at hrow
    exact .inl (hupdate hrow fun old _ => hsettle.agentRunId old)
  | resumeRequested hoperation hpaused hops hreqs hdrawn hruns =>
    exact .inl ⟨row, hops ▸ hrow, rfl⟩
  | cancelled hoperation hops hreqs hdrawn hruns =>
    rw [hops] at hrow
    exact .inl (hupdate hrow fun _ _ => rfl)
  | purged hops hreqs hruns hevents hdrawn =>
    rw [hops, Table.mem_deleteWhere] at hrow
    exact .inl ⟨row, hrow.1, rfl⟩

/-- A registered run was registered before, or is fresh. -/
theorem Change.registered_run (h : Change env db now action reply db') {run : AgentRun}
    (hrun : run ∈ db'.agentRuns) :
    run ∈ db.agentRuns ∨ (run.agentRunId = "agent-run-" ++ env.randomUUID db.uuidsDrawn ∧
      db.uuidsDrawn < db'.uuidsDrawn) := by
  have hopened : ∀ {agentRunId operationId : String}, OpensRun agentRunId operationId db db' →
      run ∈ db.agentRuns ∨ run.agentRunId = agentRunId := by
    intro agentRunId operationId hopens
    obtain ⟨attempt, createdAt, hinsert⟩ := hopens.agentRuns
    rcases (Table.mem_insert? hinsert).mp hrun with hold | rfl
    · exact .inl hold
    · exact .inr rfl
  cases h with
  | frame hsame hreply => exact .inl (hsame.agentRuns ▸ hrun)
  | submitted hops hreqs hdrawn hruns =>
    rcases hopened hruns with hold | hfresh
    · exact .inl hold
    · exact .inr ⟨hfresh, hdrawn⟩
  | claimed hfound hclaimable hops hreqs hclaimed =>
    cases hclaimed with
    | current hstate hsame hdrawn hruns => exact .inl (hruns.agentRuns ▸ hrun)
    | retried hstate hnew hdrawn hruns =>
      rcases hopened hruns with hold | hfresh
      · exact .inl hold
      · exact .inr ⟨hfresh.trans hnew, hdrawn⟩
  | controlRejected hrequest hclaimable hops hreqs hdrawn hruns =>
    exact .inl (hruns.agentRuns ▸ hrun)
  | controlClaimed hrequest hclaimable hoperation hconsistent hops hreqs hclaim hof hdrawn hruns =>
    exact .inl (hruns.agentRuns ▸ hrun)
  | completed hfound hdecoded hcompletable hsettle hcommitted hops hreqs hdrawn hruns =>
    exact .inl (hruns.agentRuns ▸ hrun)
  | resumeRequested hoperation hpaused hops hreqs hdrawn hruns =>
    exact .inl (hruns.agentRuns ▸ hrun)
  | cancelled hoperation hops hreqs hdrawn hruns => exact .inl (hruns.agentRuns ▸ hrun)
  | purged hops hreqs hruns hevents hdrawn =>
    rw [hruns, Table.mem_deleteWhere] at hrun
    exact .inl hrun.1

/-- Every registered run was drawn. -/
def RunsIssued (env : Environment) (db : Store) : Prop :=
  ∀ run ∈ db.agentRuns, Issued env db run.agentRunId

theorem runsIssued_of_run {es : List (Entry Store (Instant × Action) Reply)}
    (h : Run (step env) Store.empty es db) : RunsIssued env db := by
  refine h.invariant (G := fun _ _ => True) ?_ (fun _ _ => trivial) ?_
  · intro s t a r hs _ hstep run hrun
    rcases (step_change hstep).registered_run hrun with hold | ⟨hfresh, hdrawn⟩
    · exact (hs run hold).mono (step_change hstep).drawn_le
    · rw [hfresh]
      exact issued_fresh hdrawn
  · intro run hrun
    cases hrun

theorem runsKnown_of_run {es : List (Entry Store (Instant × Action) Reply)}
    (h : Run (step env) Store.empty es db) : RunsKnown env db := by
  refine h.invariant (G := fun _ _ => True) ?_ (fun _ _ => trivial) runsKnown_empty
  intro s t a r hs _ hstep
  exact hs.change (step_change hstep)

end Runs

end ChoiceMind.TaskPersistence
