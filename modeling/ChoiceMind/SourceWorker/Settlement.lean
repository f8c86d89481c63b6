import ChoiceMind.SourceWorker.Progress

/-!
# Settlement of claims

A run ends by the commit of an outcome of its claim or by the report of its lost lease, unless its
`MARK_INVALID` has nothing to delete or its `complete` does not take the outcome.
-/

namespace ChoiceMind.SourceWorker

set_option autoImplicit false

open Contracts TaskPersistence Security SourceAccess SourceResearch Transition

abbrev WorkerEntry := Entry WorkerWorld WorkerLabel WorkerReply

/-- Any rows and any vault, with nothing in progress. -/
def WorkerWorld.start (tables : AccessTables) : WorkerWorld :=
  ⟨⟨tables, .empty⟩, .initial, .empty, .empty⟩

/-- The outcome of the claim has been committed, or the run reports the lost lease. -/
def RunEnd.isSettled : RunEnd → Bool
  | .settled .committed | .leaseLost => true
  | _ => false

/-- The claim of a run that a step ends. -/
def endedClaim (e : WorkerEntry) : Option SourceResearchClaim :=
  match e.reply with
  | .ended _ => (e.label.run?.bind e.before.runs.find?).map WorkerRun.claim
  | _ => none

/-- How often runs of the claim have ended. -/
def endings (claim : SourceResearchClaim) (es : List WorkerEntry) : Nat :=
  es.countP fun e => endedClaim e = some claim

/-- A run of the claim is in progress. -/
def WorkerWorld.Works (world : WorkerWorld) (claim : SourceResearchClaim) : Prop :=
  ∃ client run, world.runs.find? client = some run ∧ run.claim = claim

/-- Every claim has one run, which ends once, by a commit of its outcome or by the report of the
lost lease, and which is neither stuck before nor goes on for ever. -/
structure Settles (env : WorkerEnvironment) (es : List WorkerEntry) (world : WorkerWorld) :
    Prop where
  ends : ∀ e ∈ es, ∀ result, e.reply = .ended result → result.isSettled = true
  once : ∀ claim ∈ world.research.claims, (world.Works claim ∧ endings claim es = 0) ∨
    (¬ world.Works claim ∧ endings claim es = 1)
  /-- the commit leaves the job as the outcome has it -/
  commits : ∀ e ∈ es, e.reply = .ended (.settled .committed) → ∀ claim, endedClaim e = some claim →
    ∃ job outcome timestamp, e.before.research.db.jobs.find? claim.jobId = some job ∧
      job.state = .running ∧
      e.after.research.db.jobs.find? claim.jobId = some (job.settled outcome timestamp)
  /-- but for the lock of a login, each run has a next step -/
  enabled : ∀ client run, world.runs.find? client = some run →
    (∃ current ∈ world.access.calls, current.phase.holdsRow run.claim.scope = true) ∨
      ∃ label, label.run? = some client ∧ (workerStep env world label).isSome = true
  /-- and each of its steps is one less to take -/
  nearer : ∀ e ∈ es, ∀ client run, e.before.runs.find? client = some run →
    (e.label.run? = some client ∧ ∃ result, e.reply = .ended result) ∨
      ∃ run', e.after.runs.find? client = some run' ∧ run'.claim = run.claim ∧
        run'.phase.remaining + (if e.label.run? = some client then 1 else 0) ≤
          run.phase.remaining

/-- A deletion finds the credential in the vault and its audit record is taken; a `complete` is
one of a new result with permitted costs, by a claim that holds its job. -/
def WorkerRun.settleable (env : WorkerEnvironment) (world : WorkerWorld) (label : WorkerLabel)
    (run : WorkerRun) : Bool :=
  match run.phase, label with
  | .deleting _ _ row, _ =>
    env.access.systemAuditError.isNone &&
      world.access.tables.holdsSource ⟨run.claim.scope.ownerUserId, row.credentialId⟩
  | .finishing outcome, _ => !alreadyCommitted run.claim outcome world.research.db
  | .completing outcome, .complete _ lockedAt _ =>
    isCostUnits outcome.costUnits && (world.research.db.held run.claim lockedAt).isSome
  | _, _ => true

/-- The step is no step of a run, or one that its run can settle from. -/
def Settleable (env : WorkerEnvironment) (world : WorkerWorld) (label : WorkerLabel) : Prop :=
  (label.run?.bind world.runs.find?).all (WorkerRun.settleable env world label) = true

instance (env : WorkerEnvironment) (world : WorkerWorld) (label : WorkerLabel) :
    Decidable (Settleable env world label) := inferInstanceAs (Decidable (_ = true))

/-! ### Ends of runs -/

section Ends
variable {env : WorkerEnvironment} {world world' : WorkerWorld} {label : WorkerLabel}
  {reply : WorkerReply} {client : Nat} {run : WorkerRun}

theorem settleable_iff (hown : label.run? = some client)
    (hrun : world.runs.find? client = some run) :
    Settleable env world label ↔ run.settleable env world label = true := by
  unfold Settleable
  rw [hown, Option.bind_some, hrun, Option.all_some]

theorem ends_of_eq {result : RunEnd} (h : reply = .ended result) :
    (∀ result, reply = .ended result → result.isSettled = true) ↔ result.isSettled = true := by
  subst h
  constructor
  · intro hends
    exact hends result rfl
  · rintro hsettled _ ⟨⟩
    exact hsettled

/-- `finally` of a run: it goes on, or it reports the lost lease. -/
theorem ends_of_leave {phase : RunPhase} (h : world.put run (run.leave phase) = (reply, world')) :
    ∀ result, reply = .ended result → result.isSettled = true := by
  unfold WorkerRun.leave at h
  split at h
  · cases h
    rintro _ ⟨⟩
    rfl
  · cases h
    exact fun _ => nofun

theorem ends_access (hissued : LoginsIssued env.access world.access.tables) {now : Instant}
    {answer : AdapterAnswer} {locked : SourceScope → Bool} {result : RunResult}
    {tables : AccessTables}
    (hmove : AccessMove env run now answer locked world.access.tables run.phase result tables)
    (hput : (world.withTables tables).put run result = (reply, world')) :
    (∀ result, reply = .ended result → result.isSettled = true) ↔
      run.settleable env world (.access client now answer) = true := by
  unfold WorkerRun.settleable
  generalize run.phase = phase at hmove ⊢
  cases hmove with
  | undeleted failed challenge row error hrefused =>
    cases hput
    rw [ends_of_eq rfl]
    dsimp only
    rw [Bool.or_eq_true, Bool.not_eq_true'] at hrefused
    refine iff_of_false Bool.false_ne_true fun hsettleable => ?_
    rw [Bool.and_eq_true] at hsettleable
    rcases hrefused with haudit | hmissing
    · rw [← Option.not_isSome, haudit] at hsettleable
      exact Bool.false_ne_true hsettleable.1
    · rw [hmissing] at hsettleable
      exact Bool.false_ne_true hsettleable.2
  | loaded failed challenge row hloads =>
    cases hput
    dsimp only
    rw [Bool.or_eq_false_iff, Bool.not_eq_false'] at hloads
    refine iff_of_true (fun _ => nofun) ?_
    rw [← Option.not_isSome, hloads.1, hloads.2]
    rfl
  | refused challenge error tables hlogin =>
    obtain ⟨login, logins, -, -, hbegins⟩ := beginLogin_inserts hissued run.claim.scope
      ((env.adapters run.claim.scope.sourceId).getD "") now
    rw [hbegins] at hlogin
    cases hlogin
  | unread | authRequired | operated | loggedIn =>
    exact iff_of_true (ends_of_leave hput) rfl
  | _ =>
    cases hput
    exact iff_of_true (fun _ => nofun) rfl

theorem ends_complete (hconsistent : Consistent env.research world.research)
    {lockedAt timestamp : Instant} {result : RunResult} {research : ResearchWorld}
    (hmove : CompleteMove env run lockedAt timestamp world.research run.phase result research)
    (hput : ({ world with research } : WorkerWorld).put run result = (reply, world')) :
    (∀ result, reply = .ended result → result.isSettled = true) ↔
      run.settleable env world (.complete client lockedAt timestamp) = true := by
  unfold WorkerRun.settleable
  generalize run.phase = phase at hmove ⊢
  cases hmove with
  | repeated outcome hcommitted =>
    cases hput
    rw [ends_of_eq rfl]
    dsimp only
    rw [hcommitted]
    rfl
  | begun outcome research' hopen =>
    cases hput
    dsimp only
    rw [hopen]
    exact iff_of_true (fun _ => nofun) rfl
  | settled outcome status research' hstep =>
    cases hput
    obtain ⟨-, heffect, -⟩ := call_effect hconsistent.linked hconsistent.results hstep rfl
    rw [ends_of_eq rfl]
    dsimp only
    rw [Bool.and_eq_true]
    refine Iff.trans ?_ heffect
    cases status <;> rfl
  | refused outcome error research' hstep =>
    cases hput
    obtain ⟨-, heffect, -⟩ := call_effect hconsistent.linked hconsistent.results hstep rfl
    rw [ends_of_eq rfl]
    dsimp only
    rw [Bool.and_eq_true]
    exact Iff.trans Iff.rfl heffect

/-- A step ends a run as it should exactly where the run can settle. -/
theorem ends_iff (h : Working env world)
    (hstep : workerStep env world label = some (reply, world')) :
    (∀ result, reply = .ended result → result.isSettled = true) ↔ Settleable env world label := by
  cases workerStep_move hstep with
  | access client now answer run result tables hrun hphase _ _ hput =>
    rw [settleable_iff rfl hrun]
    exact ends_access h.issued (accessPhase_move hphase) hput
  | complete client lockedAt timestamp run result research hrun hphase _ _ hput =>
    rw [settleable_iff rfl hrun]
    exact ends_complete h.consistent (researchPhase_move hphase) hput
  | _ => exact iff_of_true (fun _ => nofun) rfl

end Ends

/-! ### Steps of runs -/

section RunSteps
variable {env : WorkerEnvironment} {world world' : WorkerWorld} {label : WorkerLabel}
  {reply : WorkerReply} {client : Nat} {run : WorkerRun}

/-- A commit settles the job that the claim holds. -/
theorem settle_commits {renv : ResearchEnvironment} {research research' : ResearchWorld}
    {claim : SourceResearchClaim} {outcome : SourceResearchOutcome} {lockedAt timestamp : Instant}
    (h : researchStep renv research (.settle claim outcome lockedAt timestamp) =
      some (.completed .committed, research')) :
    ∃ job, research.db.jobs.find? claim.jobId = some job ∧ job.state = .running ∧
      research'.db.jobs.find? claim.jobId = some (job.settled outcome timestamp) := by
  unfold researchStep at h
  dsimp only at h
  split at h
  · cases h
  · split at h
    · cases h
    · rename_i hsettle
      cases h
      unfold settleJob at hsettle
      split at hsettle
      · cases hsettle
      · rename_i job hheld
        obtain ⟨hfound, hholds⟩ := held_eq_some.mp hheld
        repeat' split at hsettle
        · cases hsettle
        · cases hsettle
        · cases hsettle
          refine ⟨job, hfound, heldBy_running hholds, ?_⟩
          dsimp only
          rw [held_key hheld, Table.find?_update_self, hfound, Option.map_some]

/-- The run of a step that ends one. -/
theorem ended_run (hstep : workerStep env world label = some (reply, world')) {result : RunEnd}
    (hreply : reply = .ended result) : ∃ client run, label.run? = some client ∧
      world.runs.find? client = some run ∧ world'.runs.find? client = none := by
  have hput : ∀ {before : WorkerWorld} {run : WorkerRun} {next : RunResult},
      before.put run next = (reply, world') → world'.runs.find? run.client = none := by
    intro before run next hput
    cases next with
    | next phase heartbeat =>
      cases hput
      cases hreply
    | ended result =>
      cases hput
      exact Table.find?_erase.trans (if_pos rfl)
  cases workerStep_move hstep with
  | access client now answer run result tables hrun hphase _ _ hnext =>
    obtain rfl := (Table.find?_eq_some.mp hrun).2
    exact ⟨_, run, rfl, hrun, hput hnext⟩
  | complete client lockedAt timestamp run result research hrun hphase _ _ hnext =>
    obtain rfl := (Table.find?_eq_some.mp hrun).2
    exact ⟨_, run, rfl, hrun, hput hnext⟩
  | _ => cases hreply

theorem commits_step (hstep : workerStep env world label = some (reply, world'))
    (hreply : reply = .ended (.settled .committed)) (hown : label.run? = some client)
    (hrun : world.runs.find? client = some run) : ∃ job outcome timestamp,
      world.research.db.jobs.find? run.claim.jobId = some job ∧ job.state = .running ∧
      world'.research.db.jobs.find? run.claim.jobId = some (job.settled outcome timestamp) := by
  cases workerStep_move hstep with
  | access client' now answer run' result tables hrun' hphase _ _ hput =>
    have hmove := accessPhase_move hphase
    generalize run'.phase = phase at hmove
    have hleave : ∀ {next : RunPhase} {before : WorkerWorld},
        before.put run' (run'.leave next) ≠ (.ended (.settled .committed), world') := by
      intro next before hleft
      unfold WorkerRun.leave at hleft
      split at hleft <;> cases hleft
    rw [hreply] at hput
    cases hmove with
    | unread | authRequired | operated | loggedIn => exact absurd hput hleave
    | _ => cases hput
  | complete client' lockedAt timestamp run' result research hrun' hphase _ _ hput =>
    cases hown
    obtain rfl := Option.some.inj (hrun.symm.trans hrun')
    have hmove := researchPhase_move hphase
    generalize run.phase = phase at hmove
    rw [put_research hput]
    rw [hreply] at hput
    cases hmove with
    | settled outcome status research' hsettle =>
      cases hput
      obtain ⟨job, hjob, hrunning, hafter⟩ := settle_commits hsettle
      exact ⟨job, outcome, timestamp, hjob, hrunning, hafter⟩
    | _ => cases hput
  | _ => cases hown

/-- A run goes on with one step less to take, or its own step ends it. -/
theorem nearer_step (hstep : workerStep env world label = some (reply, world'))
    (hrun : world.runs.find? client = some run) :
    (label.run? = some client ∧ ∃ result, reply = .ended result) ∨
      ∃ run', world'.runs.find? client = some run' ∧ run'.claim = run.claim ∧
        run'.phase.remaining + (if label.run? = some client then 1 else 0) ≤
          run.phase.remaining := by
  obtain rfl := (Table.find?_eq_some.mp hrun).2
  have hput : ∀ {before : WorkerWorld} {own : WorkerRun} {next : RunResult},
      before.put own next = (reply, world') → before.runs = world.runs →
      label.run? = some own.client → world.runs.find? own.client = some own →
      (∀ phase heartbeat, next = .next phase heartbeat →
        phase.remaining < own.phase.remaining) →
      (label.run? = some run.client ∧ ∃ result, reply = .ended result) ∨
        ∃ run', world'.runs.find? run.client = some run' ∧ run'.claim = run.claim ∧
          run'.phase.remaining + (if label.run? = some run.client then 1 else 0) ≤
            run.phase.remaining := by
    intro before own next hput hruns hown hfound hless
    rw [hown]
    by_cases hself : own.client = run.client
    · rw [hself, hrun] at hfound
      cases hfound
      cases next with
      | ended result =>
        cases hput
        exact .inl ⟨rfl, result, rfl⟩
      | next phase heartbeat =>
        have hdrop := hless phase heartbeat rfl
        cases hput
        refine .inr ⟨_, Table.find?_set_self, rfl, ?_⟩
        rw [if_pos rfl]
        exact hdrop
    · have hne : run.client ≠ own.client := fun hsame => hself hsame.symm
      refine .inr ⟨run, ?_, rfl, ?_⟩
      · rw [← hruns] at hrun
        cases next with
        | ended result =>
          cases hput
          exact Table.find?_erase.trans ((if_neg hne).trans hrun)
        | next phase heartbeat =>
          cases hput
          exact Table.find?_set.trans ((if_neg hne).trans hrun)
      · rw [if_neg fun hsame => hself (Option.some.inj hsame)]
        exact Nat.le_refl _
  have hkept : label.run? = none → world'.runs.find? run.client = some run →
      (label.run? = some run.client ∧ ∃ result, reply = .ended result) ∨
        ∃ run', world'.runs.find? run.client = some run' ∧ run'.claim = run.claim ∧
          run'.phase.remaining + (if label.run? = some run.client then 1 else 0) ≤
            run.phase.remaining := by
    intro hnone hafter
    refine .inr ⟨run, hafter, rfl, ?_⟩
    rw [hnone]
    exact Nat.le_refl _
  cases workerStep_move hstep with
  | claimed client' workerId leaseDurationMs now locked claim research hfree hclaim =>
    refine hkept rfl (Table.find?_set.trans ((if_neg ?_).trans hrun))
    intro hsame
    rw [hsame, hfree] at hrun
    cases hrun
  | access client' now answer own result tables hown hphase _ _ hnext =>
    obtain rfl := (Table.find?_eq_some.mp hown).2
    exact hput hnext rfl rfl hown fun phase heartbeat hresult =>
      (access_remaining (accessPhase_move hphase) hresult).1
  | complete client' lockedAt timestamp own result research hown hphase _ _ hnext =>
    obtain rfl := (Table.find?_eq_some.mp hown).2
    exact hput hnext rfl rfl hown fun phase heartbeat hresult =>
      (complete_remaining (researchPhase_move hphase) hresult).1
  | heartbeat client' leaseDurationMs now own answer research hown hon hrenew =>
    by_cases hself : run.client = own.client
    · rw [← (Table.find?_eq_some.mp hown).2, ← hself, hrun] at hown
      cases hown
      refine .inr ⟨_, Table.find?_set_self, rfl, ?_⟩
      rw [if_neg nofun]
      exact Nat.le_refl _
    · exact hkept rfl (Table.find?_set.trans ((if_neg hself).trans hrun))
  | _ => exact hkept rfl hrun

/-- A run that no login locks out has a next call to source access. -/
theorem access_isSome (hissued : LoginsIssued env.access world.access.tables) {now : Instant}
    {answer : AdapterAnswer} {locked : SourceScope → Bool} {phase : RunPhase}
    (hfree : locked run.claim.scope = false) (hfinishing : ∀ outcome, phase ≠ .finishing outcome)
    (hcompleting : ∀ outcome, phase ≠ .completing outcome) :
    (accessPhase env run now answer locked world.access.tables phase).isSome = true := by
  unfold accessPhase
  cases phase with
  | claimed =>
    dsimp only
    repeat' split
    all_goals rfl
  | ready =>
    dsimp only
    split <;> rfl
  | reading credentialId =>
    dsimp only
    split <;> rfl
  | operating credentialId =>
    dsimp only
    split <;> rfl
  | rejected failed challenge =>
    dsimp only
    rw [hfree, if_neg Bool.false_ne_true]
    split <;> rfl
  | deleting failed challenge row =>
    dsimp only
    split <;> rfl
  | loaded failed challenge row => rfl
  | loggingIn challenge =>
    obtain ⟨login, logins, -, -, hbegins⟩ := beginLogin_inserts hissued run.claim.scope
      ((env.adapters run.claim.scope.sourceId).getD "") now
    dsimp only
    rw [hbegins]
    rfl
  | finishing outcome => exact absurd rfl (hfinishing outcome)
  | completing outcome => exact absurd rfl (hcompleting outcome)

theorem beginComplete_isSome (renv : ResearchEnvironment) {research : ResearchWorld}
    {claim : SourceResearchClaim} (outcome : SourceResearchOutcome)
    (hclaim : claim ∈ research.claims) :
    (researchStep renv research (.beginComplete claim outcome)).isSome = true := by
  unfold researchStep
  dsimp only
  rw [if_neg (not_not.mpr hclaim)]
  split <;> rfl

theorem settle_isSome (renv : ResearchEnvironment) {research : ResearchWorld}
    {claim : SourceResearchClaim} {outcome : SourceResearchOutcome} (lockedAt timestamp : Instant)
    (hcompleting : (claim, outcome) ∈ research.completing) :
    ∃ reply research', researchStep renv research (.settle claim outcome lockedAt timestamp) =
      some (reply, research') ∧ ((∃ error, reply = .failed error) ∨
        ∃ status, reply = .completed status) := by
  unfold researchStep
  dsimp only
  rw [if_neg (not_not.mpr hcompleting)]
  split
  · exact ⟨_, _, rfl, .inl ⟨_, rfl⟩⟩
  · exact ⟨_, _, rfl, .inr ⟨_, rfl⟩⟩

/-- A run in progress waits for the lock of a login, or it has a next step. -/
theorem run_enabled (h : Working env world) (hrun : world.runs.find? client = some run) :
    (∃ current ∈ world.access.calls, current.phase.holdsRow run.claim.scope = true) ∨
      ∃ label, label.run? = some client ∧ (workerStep env world label).isSome = true := by
  have haccess : ∀ {result : RunResult × AccessTables},
      accessPhase env run 0 .nothing
        (fun scope => world.access.calls.rows.any fun other => other.phase.holdsRow scope)
        world.access.tables run.phase = some result →
      ∃ label, label.run? = some client ∧ (workerStep env world label).isSome = true := by
    intro result hphase
    refine ⟨.access client 0 .nothing, rfl, ?_⟩
    unfold workerStep
    dsimp only
    rw [hrun]
    dsimp only
    rw [hphase]
    rfl
  have hcomplete : ∀ {result : RunResult × ResearchWorld},
      researchPhase env run 0 0 world.research run.phase = some result →
      ∃ label, label.run? = some client ∧ (workerStep env world label).isSome = true := by
    intro result hphase
    refine ⟨.complete client 0 0, rfl, ?_⟩
    unfold workerStep
    dsimp only
    rw [hrun]
    dsimp only
    rw [hphase]
    rfl
  cases hlocked : world.access.calls.rows.any fun other => other.phase.holdsRow run.claim.scope with
  | true =>
    obtain ⟨current, hcurrent, hholds⟩ := List.any_eq_true.mp hlocked
    exact .inl ⟨current, hcurrent, hholds⟩
  | false =>
    right
    cases hphase : run.phase with
    | finishing outcome =>
      obtain ⟨⟨reply, research⟩, hstep⟩ := Option.isSome_iff_exists.mp
        (beginComplete_isSome env.research outcome (h.given client run hrun))
      have hnext : (researchPhase env run 0 0 world.research run.phase).isSome = true := by
        unfold researchPhase
        rw [hphase]
        dsimp only
        rw [hstep]
        cases reply <;> rfl
      obtain ⟨result, hresult⟩ := Option.isSome_iff_exists.mp hnext
      exact hcomplete hresult
    | completing outcome =>
      obtain ⟨reply, research, hstep, hreply⟩ := settle_isSome env.research 0 0
        (h.completing client run outcome hrun hphase)
      have hnext : (researchPhase env run 0 0 world.research run.phase).isSome = true := by
        unfold researchPhase
        rw [hphase]
        dsimp only
        rw [hstep]
        rcases hreply with ⟨error, rfl⟩ | ⟨status, rfl⟩ <;> rfl
      obtain ⟨result, hresult⟩ := Option.isSome_iff_exists.mp hnext
      exact hcomplete hresult
    | _ =>
      have hnext : (accessPhase env run 0 .nothing
          (fun scope => world.access.calls.rows.any fun other => other.phase.holdsRow scope)
          world.access.tables run.phase).isSome = true := by
        refine access_isSome h.issued hlocked (fun outcome hsame => ?_) fun outcome hsame => ?_
        all_goals
          rw [hphase] at hsame
          cases hsame
      obtain ⟨result, hresult⟩ := Option.isSome_iff_exists.mp hnext
      exact haccess hresult

end RunSteps

/-! ### Claims -/

/-- A claim was not given out yet, has a run in progress, or has a run that has ended once. -/
inductive Counted (claim : SourceResearchClaim) (es : List WorkerEntry) (world : WorkerWorld) : Prop
  | unknown (hclaim : claim ∉ world.research.claims) (hnone : endings claim es = 0)
  | working (hworks : world.Works claim) (hnone : endings claim es = 0)
  | ended (hclaim : claim ∈ world.research.claims) (hidle : ¬ world.Works claim)
    (honce : endings claim es = 1)

section Claims
variable {env : WorkerEnvironment} {world world' : WorkerWorld} {label : WorkerLabel}
  {reply : WorkerReply} {claim : SourceResearchClaim} {pre : List WorkerEntry}

theorem endings_concat {e : WorkerEntry} :
    endings claim (pre ++ [e]) = endings claim pre + if endedClaim e = some claim then 1 else 0 := by
  unfold endings
  rw [List.countP_append, List.countP_singleton]
  simp only [decide_eq_true_eq]

/-- A claim that a step gives out has a run after it. -/
theorem claims_step (hstep : workerStep env world label = some (reply, world'))
    (hclaim : claim ∈ world'.research.claims) :
    claim ∈ world.research.claims ∨ world'.Works claim := by
  have hgrown : ∀ {call : ResearchLabel} {answer : ResearchReply} {research : ResearchWorld},
      researchStep env.research world.research call = some (answer, research) →
      (∀ claim, answer ≠ .claimed (some claim)) → claim ∈ research.claims →
      claim ∈ world.research.claims := by
    intro call answer research hcall hnone hmem
    rw [(researchStep_grown hcall).claims, given_eq_nil hnone, List.append_nil] at hmem
    exact hmem
  -- a call that is no `claimNext` gives out nothing
  have hother : ∀ {call : ResearchLabel} {answer : ResearchReply} {research : ResearchWorld},
      researchStep env.research world.research call = some (answer, research) →
      (∀ workerId leaseDurationMs now locked,
        call ≠ .claimNext workerId leaseDurationMs now locked) →
      claim ∈ research.claims → claim ∈ world.research.claims := by
    intro call answer research hcall hlabel
    refine hgrown hcall fun given hgiven => ?_
    have hmem : given ∈ answer.given := by
      rw [hgiven]
      exact List.mem_singleton_self _
    obtain ⟨workerId, leaseDurationMs, now, locked, hsame⟩ := label_of_given hcall hmem
    exact hlabel workerId leaseDurationMs now locked hsame
  cases workerStep_move hstep with
  | claimed client workerId leaseDurationMs now locked given research hfree hcall =>
    dsimp only at hclaim
    rw [(researchStep_grown hcall).claims] at hclaim
    rcases List.mem_append.mp hclaim with hold | hnew
    · exact .inl hold
    · cases List.mem_singleton.mp hnew
      exact .inr ⟨client, _, Table.find?_set_self, rfl⟩
  | unclaimed client workerId leaseDurationMs now locked answer research hnone hcall =>
    exact .inl (hgrown hcall hnone hclaim)
  | access client now answer run result tables hrun hphase _ _ hput =>
    rw [put_research hput] at hclaim
    exact .inl hclaim
  | complete client lockedAt timestamp run result research hrun hphase _ _ hput =>
    rw [put_research hput] at hclaim
    have hmove := researchPhase_move hphase
    generalize run.phase = phase at hmove
    cases hmove with
    | repeated => exact .inl hclaim
    | begun outcome research' hopen hcompleting hcall =>
      exact .inl (hother hcall (fun _ _ _ _ => nofun) hclaim)
    | settled outcome status research' hcall =>
      exact .inl (hother hcall (fun _ _ _ _ => nofun) hclaim)
    | refused outcome error research' hcall =>
      exact .inl (hother hcall (fun _ _ _ _ => nofun) hclaim)
  | heartbeat client leaseDurationMs now run answer research hrun hon hcall =>
    exact .inl (hother hcall (fun _ _ _ _ => nofun) hclaim)
  | resume client now scope answer research hrequest hcall =>
    exact .inl (hother hcall (fun _ _ _ _ => nofun) hclaim)
  | outsideResearch call answer research houtside hcall =>
    refine .inl (hother hcall (fun _ _ _ _ hsame => ?_) hclaim)
    rw [hsame] at houtside
    cases houtside
  | _ => exact .inl hclaim

theorem claims_kept (hstep : workerStep env world label = some (reply, world'))
    (hclaim : claim ∈ world.research.claims) : claim ∈ world'.research.claims := by
  rcases workerStep_research hstep with hsame | ⟨call, answer, -, hcall⟩
  · rwa [hsame]
  · rw [(researchStep_grown hcall).claims]
    exact List.mem_append_left _ hclaim

/-- A run after a step is one of before, or the claim is a new one. -/
theorem works_before (h : Working env world)
    (hstep : workerStep env world label = some (reply, world')) (hworks : world'.Works claim) :
    world.Works claim ∨ claim ∉ world.research.claims := by
  obtain ⟨client, run', hrun', rfl⟩ := hworks
  cases workerStep_run h.consistent h.numbered hstep hrun' with
  | kept run hrun hclaim => exact .inl ⟨client, run, hrun, hclaim.symm⟩
  | moved run hrun hclaim => exact .inl ⟨client, run, hrun, hclaim.symm⟩
  | claimed _ _ _ _ _ _ hnew => exact .inr hnew

/-- The run of the claim that a step ends was the only one. -/
theorem works_ended (h : Working env world)
    (hstep : workerStep env world label = some (reply, world'))
    (hended : endedClaim ⟨world, label, reply, world'⟩ = some claim) :
    world.Works claim ∧ ¬ world'.Works claim := by
  unfold endedClaim at hended
  dsimp only at hended
  split at hended
  · rename_i result
    obtain ⟨client, run, hown, hrun, hgone⟩ := ended_run hstep rfl
    rw [hown, Option.bind_some, hrun, Option.map_some] at hended
    cases hended
    refine ⟨⟨client, run, hrun, rfl⟩, ?_⟩
    rintro ⟨other, run', hrun', hsame⟩
    have hother : ∀ {before : WorkerRun}, world.runs.find? other = some before →
        run'.claim = before.claim → False := by
      intro before hbefore hclaim
      obtain rfl := h.apart other client before run hbefore hrun (hclaim.symm.trans hsame)
      rw [hgone] at hrun'
      cases hrun'
    cases workerStep_run h.consistent h.numbered hstep hrun' with
    | kept before hbefore hclaim => exact hother hbefore hclaim
    | moved before hbefore hclaim => exact hother hbefore hclaim
    | claimed _ _ _ _ hlabel =>
      rw [hlabel] at hown
      cases hown
  · cases hended

/-- What a run keeps for one claim. -/
structure Tallied (env : WorkerEnvironment) (claim : SourceResearchClaim) (pre : List WorkerEntry)
    (world : WorkerWorld) : Prop where
  working : Working env world
  counted : Counted claim pre world

theorem counted_step (h : Working env world) (hcounted : Counted claim pre world)
    (hstep : workerStep env world label = some (reply, world')) :
    Counted claim (pre ++ [⟨world, label, reply, world'⟩]) world' := by
  by_cases hended : endedClaim ⟨world, label, reply, world'⟩ = some claim
  · obtain ⟨⟨client, run, hrun, rfl⟩, hidle⟩ := works_ended h hstep hended
    have hmem := h.given client run hrun
    cases hcounted with
    | unknown hclaim => exact absurd hmem hclaim
    | working hworks hnone =>
      refine .ended (claims_kept hstep hmem) hidle ?_
      rw [endings_concat, if_pos hended, hnone]
    | ended hclaim hold => exact absurd ⟨client, run, hrun, rfl⟩ hold
  · have hsame : endings claim (pre ++ [⟨world, label, reply, world'⟩]) = endings claim pre := by
      rw [endings_concat, if_neg hended, Nat.add_zero]
    cases hcounted with
    | unknown hclaim hnone =>
      by_cases hmem : claim ∈ world'.research.claims
      · exact .working ((claims_step hstep hmem).resolve_left hclaim) (hsame.trans hnone)
      · exact .unknown hmem (hsame.trans hnone)
    | working hworks hnone =>
      obtain ⟨client, run, hrun, rfl⟩ := hworks
      rcases nearer_step hstep hrun with ⟨hown, result, rfl⟩ | ⟨run', hrun', hclaim, -⟩
      · refine absurd ?_ hended
        unfold endedClaim
        dsimp only
        rw [hown, Option.bind_some, hrun, Option.map_some]
      · exact .working ⟨client, run', hrun', hclaim⟩ (hsame.trans hnone)
    | ended hclaim hidle honce =>
      refine .ended (claims_kept hstep hclaim) (fun hworks => ?_) (hsame.trans honce)
      rcases works_before h hstep hworks with hold | hnew
      · exact hidle hold
      · exact hnew hclaim

theorem tallied_step (h : Tallied env claim pre world)
    (hstep : workerStep env world label = some (reply, world')) :
    Tallied env claim (pre ++ [⟨world, label, reply, world'⟩]) world' where
  working := working_step h.working hstep
  counted := counted_step h.working h.counted hstep

end Claims

/-! ### Runs of the system -/

section Runs
variable {env : WorkerEnvironment} {tables : AccessTables} {world : WorkerWorld}
  {es : List WorkerEntry}

theorem working_start (hissued : LoginsIssued env.access tables) :
    Working env (.start tables) where
  consistent := consistent_initial
  numbered := numbered_initial
  issued := hissued
  given := fun _ _ hrun => absurd (Table.find?_eq_some.mp hrun).1 (Table.not_mem_empty _)
  apart := fun _ _ _ _ hrun => absurd (Table.find?_eq_some.mp hrun).1 (Table.not_mem_empty _)
  completing := fun _ _ _ hrun => absurd (Table.find?_eq_some.mp hrun).1 (Table.not_mem_empty _)

end Runs

/-! ### Examples -/

theorem issued_empty (env : AccessEnvironment) : LoginsIssued env .empty :=
  fun login hlogin => absurd hlogin (Table.not_mem_empty login)

/-- The worker has read the active row, the owner revokes the credential, and `MARK_INVALID` finds
nothing to delete. -/
def sampleRejected : List WorkerLabel :=
  sampleClaimed ++ sampleLoggedIn ++ [.access 0 4 .nothing,
    .outsideAccess (.markCredential 2 ⟨.api, .other ⟨"owner", .user⟩, "owner", "request"⟩ "source"
      "account" .revokeCredential 4),
    .outsideAccess (.advance 2 4 true), .access 0 4 .nothing, .access 0 4 .nothing,
    .access 0 4 .nothing]

/-- The step ends a run by an error. -/
def rejects (e : WorkerEntry) : Bool :=
  e.reply = .ended (.rejected (.message "CREDENTIAL_NOT_FOUND"))

/-- The adapter returns evidence and the worker commits it. -/
def sampleCommitted : List WorkerLabel :=
  sampleClaimed ++ sampleLoggedIn ++ [.access 0 4 .nothing, .access 0 4 .nothing,
    .access 0 4 .nothing, .access 0 4 (.outcome sampleEvidence), .complete 0 5 5,
    .complete 0 5 5]

end ChoiceMind.SourceWorker
