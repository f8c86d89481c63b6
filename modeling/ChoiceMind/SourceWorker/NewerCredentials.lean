import ChoiceMind.SourceWorker.Steps

/-!
# Invalidation of the credential that has failed

`MARK_INVALID` names an account. The run that sends it has used a credential, which the account
may have no longer when the statement comes to its row.
-/

namespace ChoiceMind.SourceWorker

set_option autoImplicit false

open Contracts TaskPersistence Security SourceAccess SourceResearch Transition

/-- The credential whose failure a run answers with `MARK_INVALID`. -/
def RunPhase.failed? : RunPhase → Option (Option String)
  | .rejected failed _ | .deleting failed _ _ | .loaded failed _ _ => some failed
  | _ => none

/-- Each step of a `MARK_INVALID` leaves an active credential of the account, other than the one
that has failed, active and in the vault. -/
def KeepsNewer (world : WorkerWorld) (label : WorkerLabel) (world' : WorkerWorld) : Prop :=
  ∀ client now answer run failed row, label = .access client now answer →
    world.runs.find? client = some run → run.phase.failed? = some failed →
    world.access.tables.credentials.find? run.claim.scope = some row → row.status = .active →
    failed ≠ some row.credentialId →
    world'.access.tables.credentials.find? run.claim.scope = some row ∧
      world'.access.tables.vault.find? ⟨run.claim.scope.ownerUserId, row.credentialId⟩ =
        world.access.tables.vault.find? ⟨run.claim.scope.ownerUserId, row.credentialId⟩

/-- The account and the credential that fails in a step of a run, which then goes on to
`MARK_INVALID`. -/
def WorkerWorld.fails (env : WorkerEnvironment) (world : WorkerWorld) :
    WorkerLabel → Option (SourceScope × String)
  | .access client _ answer =>
    (world.runs.find? client).bind fun run =>
      match run.phase, answer with
      | .reading credentialId, _ =>
        if env.access.systemAuditError = none ∧ world.access.tables.holdsSource
            ⟨run.claim.scope.ownerUserId, credentialId⟩ = false then
          some (run.claim.scope, credentialId)
        else none
      | .operating credentialId, .authRequired _ =>
        if run.leaseLost then none else some (run.claim.scope, credentialId)
      | _, _ => none
  | _ => none

/-- Before the statement of `MARK_INVALID`. -/
def RunPhase.isRejected : RunPhase → Bool
  | .rejected .. => true
  | _ => false

/-- A credential fails only while it is the one of its account, and no other one is published for
the account until `MARK_INVALID` has come to its row. -/
structure FailsOnCurrent (env : WorkerEnvironment) (world : WorkerWorld) (label : WorkerLabel) : Prop where
  current : ∀ scope credentialId, world.fails env label = some (scope, credentialId) →
    ∀ row, world.access.tables.credentials.find? scope = some row →
      row.credentialId = credentialId
  kept : ∀ scope, world.publishes label = some scope → ∀ client run,
    world.runs.find? client = some run → run.claim.scope = scope → run.phase.isRejected = false

/-- What `MARK_INVALID` is going to invalidate or to delete is the credential that has failed. -/
def Current (tables : AccessTables) (run : WorkerRun) : Prop :=
  match run.phase with
  | .rejected failed _ => ∀ row, tables.credentials.find? run.claim.scope = some row →
    failed = some row.credentialId
  | .deleting failed _ row | .loaded failed _ row => failed = some row.credentialId
  | _ => True

def AllCurrent (world : WorkerWorld) : Prop :=
  ∀ client run, world.runs.find? client = some run → Current world.access.tables run

section Steps
variable {env : WorkerEnvironment} {world world' : WorkerWorld} {label : WorkerLabel}
  {reply : WorkerReply} {run : WorkerRun} {before after : AccessTables}

theorem Current.keep (h : Current before run)
    (hkept : run.phase.isRejected = true → RowKept before after run.claim.scope) :
    Current after run := by
  unfold Current at h ⊢
  cases hphase : run.phase with
  | rejected failed challenge =>
    rw [hphase] at h hkept
    intro row' hrow'
    obtain ⟨row, hrow, hsame, -⟩ := hkept rfl row' hrow'
    rw [← hsame]
    exact h row hrow
  | deleting failed challenge row =>
    rw [hphase] at h
    exact h
  | loaded failed challenge row =>
    rw [hphase] at h
    exact h
  | _ => trivial

/-- The run after its next call. -/
theorem current_access {client : Nat} {now : Instant} {answer : AdapterAnswer}
    {locked : SourceScope → Bool} {result : RunResult} (h : Current world.access.tables run)
    (hrun : world.runs.find? client = some run)
    (hguard : FailsOnCurrent env world (.access client now answer))
    (hmove : AccessMove env run now answer locked world.access.tables run.phase result after)
    {phase : RunPhase} {heartbeat : Bool} (hresult : result = .next phase heartbeat) :
    Current after { run with phase, heartbeat } := by
  have hfails : ∀ {credentialId : String},
      world.fails env (.access client now answer) = some (run.claim.scope, credentialId) →
      ∀ row, world.access.tables.credentials.find? run.claim.scope = some row →
        some credentialId = some row.credentialId := fun hfailed row hrow =>
    congrArg some (hguard.current _ _ hfailed row hrow).symm
  generalize hphase : run.phase = old at hmove
  cases hmove with
  | absent =>
    cases hresult
    intro row hrow
    rw [hrow]
    rfl
  | missing credentialId haudit hmissing =>
    cases hresult
    refine hfails ?_
    unfold WorkerWorld.fails
    dsimp only
    rw [hrun, Option.bind_some, hphase]
    exact if_pos ⟨haudit, hmissing⟩
  | authRequired credentialId challenge hanswer =>
    obtain ⟨rfl, hheld⟩ := leave_next hresult
    refine hfails ?_
    unfold WorkerWorld.fails
    dsimp only
    rw [hrun, Option.bind_some, hphase, hanswer, hheld]
    rfl
  | marked failed challenge row hfree hrow =>
    cases hresult
    unfold Current at h
    rw [hphase] at h
    exact h row hrow
  | loaded failed challenge row =>
    cases hresult
    unfold Current at h
    rw [hphase] at h
    exact h
  | unread credentialId =>
    obtain ⟨rfl, -⟩ := leave_next hresult
    trivial
  | operated credentialId outcome =>
    obtain ⟨rfl, -⟩ := leave_next hresult
    trivial
  | loggedIn challenge login tables' hlogin =>
    obtain ⟨rfl, -⟩ := leave_next hresult
    trivial
  | undeleted => cases hresult
  | refused => cases hresult
  | _ =>
    cases hresult
    trivial

/-- Calls to source research lead neither to `MARK_INVALID` nor into it. -/
theorem current_complete {lockedAt timestamp : Instant} {research research' : ResearchWorld}
    {old : RunPhase} {result : RunResult} {phase : RunPhase} {heartbeat : Bool}
    (hmove : CompleteMove env run lockedAt timestamp research old result research')
    (hresult : result = .next phase heartbeat) (tables : AccessTables) :
    Current tables { run with phase, heartbeat } := by
  cases hmove with
  | begun =>
    cases hresult
    trivial
  | _ => cases hresult

theorem allCurrent_step (h : AllCurrent world) (hguard : FailsOnCurrent env world label)
    (hstep : workerStep env world label = some (reply, world')) : AllCurrent world' := by
  -- a run that takes no step keeps its credential
  have hkeep : ∀ {other : Nat} {run : WorkerRun}, world.runs.find? other = some run →
      Current world'.access.tables run := by
    intro other run hrun
    refine (h other run hrun).keep fun hrejected => ?_
    refine (workerStep_row hstep run.claim.scope).resolve_right fun hpublishes => ?_
    have hkept := hguard.kept _ hpublishes other run hrun rfl
    rw [hrejected] at hkept
    cases hkept
  intro other run' hrun'
  cases workerStep_move hstep with
  | claimed client workerId leaseDurationMs now locked claim research hfree =>
    dsimp only at hrun'
    rw [Table.find?_set] at hrun'
    split at hrun'
    · cases hrun'
      trivial
    · exact hkeep hrun'
  | access client now answer run result tables hrun hphase _ _ hput =>
    rcases put_runs hput hrun' with ⟨-, phase, heartbeat, hresult, rfl⟩ | ⟨-, hrun'⟩
    · rw [put_access hput]
      exact current_access (h client run hrun) hrun hguard (accessPhase_move hphase) hresult
    · exact hkeep hrun'
  | complete client lockedAt timestamp run result research hrun hphase _ _ hput =>
    rcases put_runs hput hrun' with ⟨-, phase, heartbeat, hresult, rfl⟩ | ⟨-, hrun'⟩
    · exact current_complete (researchPhase_move hphase) hresult _
    · exact hkeep hrun'
  | heartbeat client leaseDurationMs now run reply research hrun hon =>
    dsimp only at hrun'
    rw [Table.find?_set] at hrun'
    split at hrun'
    · cases hrun'
      have hsame : Current world.access.tables run := hkeep hrun
      exact hsame
    · exact hkeep hrun'
  | _ => exact hkeep hrun'

theorem keepsNewer_step (h : AllCurrent world)
    (hstep : workerStep env world label = some (reply, world')) :
    KeepsNewer world label world' := by
  rintro client now answer run failed row rfl hrun hfailed hrow hactive hnewer
  cases workerStep_move hstep with
  | access _ _ _ run' result tables hrun' hphase _ _ hput =>
    obtain rfl := Option.some.inj (hrun.symm.trans hrun')
    rw [put_access hput]
    have hcurrent := h client run hrun
    unfold Current at hcurrent
    have hmove := accessPhase_move hphase
    generalize run.phase = old at hmove hcurrent hfailed
    cases hmove with
    | unmarked failed' challenge hfree =>
      cases hfailed
      exact absurd (hcurrent row hrow) hnewer
    | marked failed' challenge row' hfree hrow' =>
      cases hfailed
      exact absurd (hcurrent row hrow) hnewer
    | undeleted => exact ⟨hrow, rfl⟩
    | loaded => exact ⟨hrow, rfl⟩
    | deleted failed' challenge row' =>
      cases hfailed
      refine ⟨hrow, ?_⟩
      unfold WorkerWorld.withTables
      dsimp only
      rw [Table.find?_erase, if_neg]
      intro hsame
      rw [hcurrent] at hnewer
      exact hnewer (congrArg some (congrArg CredentialKey.credentialId hsame).symm)
    | _ => cases hfailed

/-- In every run where credentials fail only so, a `MARK_INVALID` keeps the newer ones. -/
theorem newer_kept {es : List (Entry WorkerWorld WorkerLabel WorkerReply)}
    (h : Run (workerStep env) .initial es world) (hguard : Guarded (FailsOnCurrent env) es) :
    ∀ e ∈ es, KeepsNewer e.before e.label e.after := by
  have hinitial : AllCurrent .initial := fun _ _ hrun =>
    absurd (Table.find?_eq_some.mp hrun).1 (Table.not_mem_empty _)
  intro e he
  have hbefore := (h.invariant_entry (fun hcurrent => allCurrent_step hcurrent) hguard hinitial he).1
  exact keepsNewer_step hbefore (h.entry_step he)

end Steps

/-! ### Examples -/

/-- A step of `MARK_INVALID` changes the row of a newer credential. -/
def invalidates (e : Entry WorkerWorld WorkerLabel WorkerReply) : Bool :=
  match e.label with
  | .access client _ _ =>
    (e.before.runs.find? client).any fun run =>
      run.phase.failed?.any fun failed =>
        (e.before.access.tables.credentials.find? run.claim.scope).any fun row =>
          row.status = .active && failed ≠ some row.credentialId &&
            e.after.access.tables.credentials.find? run.claim.scope ≠ some row
  | _ => false

theorem not_keepsNewer {e : Entry WorkerWorld WorkerLabel WorkerReply}
    (h : invalidates e = true) : ¬ KeepsNewer e.before e.label e.after := by
  intro hkeeps
  unfold invalidates at h
  split at h
  · rename_i client now answer hlabel
    simp only [Option.any_eq_true, Bool.and_eq_true, decide_eq_true_eq] at h
    obtain ⟨run, hrun, failed, hfailed, row, hrow, ⟨hactive, hnewer⟩, hchanged⟩ := h
    exact hchanged (hkeeps client now answer run failed row hlabel hrun hfailed hrow hactive
      hnewer).1
  · cases h

/-- A schedule in which a `MARK_INVALID` does not keep a newer credential. -/
def Invalidates (env : WorkerEnvironment) (labels : List WorkerLabel) : Prop :=
  ∃ es world, Run (workerStep env) .initial es world ∧ es.map Entry.label = labels ∧
    ∃ e ∈ es, ¬ KeepsNewer e.before e.label e.after

theorem invalidates_of_exec {env : WorkerEnvironment} {labels : List WorkerLabel}
    (h : (exec (workerStep env) .initial labels).any
      (fun result => result.1.any invalidates) = true) : Invalidates env labels := by
  obtain ⟨es, world, hrun, hlabels, hbroken⟩ := exists_labelled_run_of_exec h
  obtain ⟨e, he, hinvalidates⟩ := List.any_eq_true.mp hbroken
  exact ⟨es, world, hrun, hlabels, e, he, not_keepsNewer hinvalidates⟩

/-- The audit table refuses the records of the system actor. -/
def auditedWorker : WorkerEnvironment :=
  { sampleWorker with
    access := { sampleAccess with systemAuditError := some .persistenceUnavailable } }

/-- The owner logs in again, up to the commit of the new credential. -/
def sampleReplaced : List WorkerLabel :=
  [.outsideAccess (.beginLogin ⟨"owner", "source", "account"⟩ "login" 5),
   .request 1 ⟨"owner", .user⟩ "request" (uuidText 2), .outsideAccess (.advance 1 6 true),
   .outsideAccess (.advance 1 6 true), .outsideAccess (.advance 1 6 true)]

/-- A run reads its credential and hands it to the adapter. -/
def sampleOperating : List WorkerLabel :=
  sampleClaimed ++ sampleLoggedIn ++ [.access 0 4 .nothing, .access 0 4 .nothing,
    .access 0 4 .nothing]

/-- The adapter refuses the credential after it has been replaced. -/
def sampleRefused : List WorkerLabel :=
  sampleOperating ++ sampleReplaced ++ [.access 0 7 (.authRequired .qrCode), .access 0 7 .nothing]

/-- A run has seen the account active, the owner revokes the credential and logs in again. -/
def sampleRevoked : List WorkerLabel :=
  sampleClaimed ++ sampleLoggedIn ++ [.access 0 4 .nothing,
    .outsideAccess (.markCredential 2 ⟨.api, .other ⟨"owner", .user⟩, "owner", "request"⟩ "source"
      "account" .revokeCredential 4),
    .outsideAccess (.advance 2 4 true), .access 0 4 .nothing] ++ sampleReplaced ++
    [.access 0 7 .nothing]

theorem newer_invalidated :
    Invalidates sampleWorker sampleRefused ∧ Invalidates auditedWorker sampleRevoked :=
  ⟨invalidates_of_exec (by decide +kernel), invalidates_of_exec (by decide +kernel)⟩

instance (env : WorkerEnvironment) (world : WorkerWorld) (label : WorkerLabel) :
    Decidable (FailsOnCurrent env world label) :=
  decidable_of_iff (((world.fails env label).all fun failed =>
      (world.access.tables.credentials.find? failed.1).all fun row =>
        row.credentialId = failed.2) ∧
    (world.publishes label).all fun scope => world.runs.rows.all fun run =>
      run.claim.scope = scope → run.phase.isRejected = false) <| by
    simp only [Option.all_eq_true, List.all_eq_true, decide_eq_true_eq, Prod.forall]
    constructor
    · rintro ⟨hcurrent, hkept⟩
      refine ⟨hcurrent, fun scope hpublishes client run hrun => ?_⟩
      exact hkept scope hpublishes run (Table.find?_eq_some.mp hrun).1
    · rintro ⟨hcurrent, hkept⟩
      refine ⟨hcurrent, fun scope hpublishes run hrun => ?_⟩
      exact hkept scope hpublishes run.client run (Table.find?_of_mem hrun)

/-- The owner logs in again while `MARK_INVALID` is deleting the credential that has failed. -/
theorem newer_kept_sample : ∃ es world, Run (workerStep sampleWorker) .initial es world ∧
    es.map Entry.label = sampleOperating ++ [.access 0 5 (.authRequired .qrCode),
      .access 0 5 .nothing] ++ sampleReplaced ++ [.access 0 6 .nothing, .access 0 6 .nothing] ∧
    isActive world.access.tables ⟨"owner", "source", "account"⟩ = true ∧
    ∀ e ∈ es, KeepsNewer e.before e.label e.after := by
  have hexec : (exec (workerStep sampleWorker) .initial (sampleOperating ++
      [.access 0 5 (.authRequired .qrCode), .access 0 5 .nothing] ++ sampleReplaced ++
      [.access 0 6 .nothing, .access 0 6 .nothing])).any
      (fun result => decide (Guarded (FailsOnCurrent sampleWorker) result.1) &&
        isActive result.2.access.tables ⟨"owner", "source", "account"⟩) = true := by
    decide +kernel
  obtain ⟨es, world, hrun, hlabels, hcheck⟩ := exists_labelled_run_of_exec hexec
  rw [Bool.and_eq_true, decide_eq_true_eq] at hcheck
  exact ⟨es, world, hrun, hlabels, hcheck.2, newer_kept hrun hcheck.1⟩

end ChoiceMind.SourceWorker
