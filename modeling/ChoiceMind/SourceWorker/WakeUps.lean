import ChoiceMind.SourceWorker.Steps

/-!
# Jobs that wait for a login

A completed login wakes the jobs that wait for it. The worker looks at the credential and parks
its job in two transactions, and a login that is completed and resumed in between finds no job to
wake.
-/

namespace ChoiceMind.SourceWorker

set_option autoImplicit false

open Contracts TaskPersistence Security SourceAccess SourceResearch Transition

/-! ### Wake-ups to come -/

/-- The account whose status a completed `COMPLETE_LOGIN` is going to return. -/
def resumes? : CallPhase → Option SourceScope
  | .deleting _ (.replaced _ (some row)) | .loaded _ (.replaced _ (some row)) => some row.scope
  | .forgetting _ (some row) => some row.scope
  | _ => none

/-- A request that has published its credential is still going to resume the account. -/
def LoginRequest.willResume (calls : Table OpenCall.client) (scope : SourceScope)
    (request : LoginRequest) : Bool :=
  match request.resuming with
  | some resuming => resuming = scope
  | none => (calls.find? request.client).any fun current => resumes? current.phase = some scope

def WorkerWorld.willResume (world : WorkerWorld) (scope : SourceScope) : Bool :=
  world.requests.rows.any (LoginRequest.willResume world.access.calls scope)

/-- The account of the job that a step parks as `WAITING_SOURCE_LOGIN`. -/
def WorkerWorld.parks (world : WorkerWorld) : WorkerLabel → Option SourceScope
  | .complete client lockedAt _ =>
    (world.runs.find? client).bind fun run =>
      match run.phase with
      | .completing (.waitingChallenge ..) =>
        (world.research.db.held run.claim lockedAt).map Job.scope
      | _ => none
  | _ => none

/-- A job is parked only while its credential is not active or a wake-up is still to come. -/
def ParksAwake (world : WorkerWorld) (label : WorkerLabel) : Prop :=
  ∀ scope, world.parks label = some scope → isActive world.access.tables scope = true →
    world.willResume scope = true

/-- A waiting job whose credential is active is going to be resumed. -/
def Woken (world : WorkerWorld) : Prop :=
  ∀ job ∈ world.research.db.jobs, job.state = .waitingSourceLogin →
    isActive world.access.tables job.scope = true → world.willResume job.scope = true

/-- A `COMPLETE_LOGIN` in progress is one of a request, by an owner. -/
def Requested (world : WorkerWorld) : Prop :=
  ∀ client current, world.access.calls.find? client = some current →
    current.phase.loginSession?.isSome = true →
    world.requests.find? client = some ⟨client, none⟩ ∧
      ∃ actor, current.call.caller = .other actor

section Steps
variable {env : WorkerEnvironment} {world world' : WorkerWorld} {label : WorkerLabel}
  {reply : WorkerReply} {scope : SourceScope}

theorem willResume_iff : world.willResume scope = true ↔
    ∃ client request, world.requests.find? client = some request ∧
      request.willResume world.access.calls scope = true := by
  unfold WorkerWorld.willResume
  rw [List.any_eq_true]
  constructor
  · rintro ⟨request, hrequest, hresumes⟩
    exact ⟨request.client, request, Table.find?_of_mem hrequest, hresumes⟩
  · rintro ⟨client, request, hfound, hresumes⟩
    exact ⟨request, (Table.find?_eq_some.mp hfound).1, hresumes⟩

theorem isActive_iff {tables : AccessTables} : isActive tables scope = true ↔
    ∃ row, tables.credentials.find? scope = some row ∧ row.status = .active := by
  unfold isActive
  rw [Option.any_eq_true]
  simp only [decide_eq_true_eq]

/-- A step makes no row active unless it publishes a credential for it. -/
theorem active_before (h : workerStep env world label = some (reply, world'))
    (hactive : isActive world'.access.tables scope = true) :
    isActive world.access.tables scope = true ∨ world.publishes label = some scope := by
  obtain ⟨row', hrow', hstatus⟩ := isActive_iff.mp hactive
  refine (workerStep_row h scope).imp_left fun hkept => ?_
  obtain ⟨row, hrow, -, hsame⟩ := hkept row' hrow'
  obtain rfl := hsame hstatus
  exact isActive_iff.mpr ⟨row, hrow, hstatus⟩

/-- The step that settles a job is the one of its run. -/
theorem parks_of_settle (h : workerStep env world label = some (reply, world'))
    {claim : SourceResearchClaim} {challenge : Challenge} {loginSessionId : String}
    {lockedAt timestamp : Instant} {job : Job}
    (hcall : world.researchCall label =
      some (.settle claim (.waitingChallenge challenge loginSessionId) lockedAt timestamp))
    (hheld : world.research.db.held claim lockedAt = some job) :
    world.parks label = some job.scope := by
  unfold WorkerWorld.researchCall at hcall
  cases label with
  | complete client lockedAt' timestamp' =>
    dsimp only at hcall
    rw [Option.bind_eq_some_iff] at hcall
    obtain ⟨run, hrun, hcall⟩ := hcall
    unfold WorkerWorld.parks
    dsimp only
    rw [hrun, Option.bind_some]
    split at hcall
    · cases hcall
    · rename_i hphase
      cases hcall
      rw [hphase]
      dsimp only
      rw [hheld, Option.map_some]
    · cases hcall
  | outsideResearch label =>
    cases hcall
    cases workerStep_move h with
    | outsideResearch _ _ _ houtside => cases houtside
  | resume client now =>
    dsimp only at hcall
    rw [Option.map_eq_some_iff] at hcall
    obtain ⟨_, -, hcall⟩ := hcall
    cases hcall
  | heartbeat client leaseDurationMs now =>
    dsimp only at hcall
    rw [Option.map_eq_some_iff] at hcall
    obtain ⟨_, -, hcall⟩ := hcall
    cases hcall
  | _ => cases hcall

theorem settled_waiting {outcome : SourceResearchOutcome} {timestamp : Instant} {job : Job}
    (h : (job.settled outcome timestamp).state = .waitingSourceLogin) :
    ∃ challenge loginSessionId, outcome = .waitingChallenge challenge loginSessionId := by
  cases outcome with
  | waitingChallenge challenge loginSessionId => exact ⟨challenge, loginSessionId, rfl⟩
  | failedRetryable summary =>
    unfold Job.settled at h
    dsimp only at h
    split at h
    · cases h
    · cases h
  | _ => cases h

theorem settled_scope {outcome : SourceResearchOutcome} {timestamp : Instant} {job : Job} :
    (job.settled outcome timestamp).scope = job.scope := by
  cases outcome with
  | failedRetryable summary =>
    unfold Job.settled
    dsimp only
    split <;> rfl
  | _ => rfl

/-- A job that waits after a step waited before it, unless the step has parked it. -/
theorem waiting_before (hlinked : Linked env.research world.research)
    (h : workerStep env world label = some (reply, world')) {job' : Job}
    (hjob' : job' ∈ world'.research.db.jobs) (hwaits : job'.state = .waitingSourceLogin) :
    (∃ job ∈ world.research.db.jobs, job.state = .waitingSourceLogin ∧
      job.scope = job'.scope) ∨ world.parks label = some job'.scope := by
  rcases workerStep_research h with hsame | ⟨call, answer, hcall, hstep⟩
  · rw [hsame] at hjob'
    exact .inl ⟨job', hjob', hwaits, rfl⟩
  · have hfound := Table.find?_of_mem hjob'
    cases researchStep_job hlinked hstep job'.jobId with
    | same hrow =>
      exact .inl ⟨job', (Table.find?_eq_some.mp (hrow.symm.trans hfound)).1, hwaits, rfl⟩
    | created job _ hafter _ _ hqueued =>
      cases hafter.symm.trans hfound
      rw [hqueued] at hwaits
      cases hwaits
    | purged hafter =>
      rw [hafter] at hfound
      cases hfound
    | resumed job _ _ _ hafter =>
      cases hafter.symm.trans hfound
      cases hwaits
    | exhausted job _ _ hafter =>
      cases hafter.symm.trans hfound
      cases hwaits
    | claimed job _ _ _ _ hafter =>
      cases hafter.symm.trans hfound
      cases hwaits
    | renewed job _ _ _ hafter _ hrunning =>
      cases hafter.symm.trans hfound
      exact absurd (hrunning.symm.trans hwaits) (by decide)
    | checkpointed job _ _ _ hafter _ hrunning =>
      cases hafter.symm.trans hfound
      exact absurd (hrunning.symm.trans hwaits) (by decide)
    | settled job claim outcome lockedAt timestamp hlabel _ hbefore hheld hafter =>
      cases hafter.symm.trans hfound
      obtain ⟨challenge, loginSessionId, rfl⟩ := settled_waiting hwaits
      rw [hlabel] at hcall
      refine .inr ?_
      rw [settled_scope]
      refine parks_of_settle h hcall (held_eq_some.mpr ⟨?_, hheld⟩)
      rw [← (heldBy_iff.mp hheld).1, (Table.find?_eq_some.mp hbefore).2]
      exact hbefore

/-! ### Requests -/

theorem answerRequest_of_ne {requests : Table LoginRequest.client} {client other : Nat}
    {reply : AccessReply} (h : other ≠ client) :
    (answerRequest requests client reply).find? other = requests.find? other := by
  unfold answerRequest
  repeat' split
  · rfl
  · exact Table.find?_set.trans (if_neg h)
  · exact Table.find?_erase.trans (if_neg h)
  · rfl

theorem answerRequest_pending {requests : Table LoginRequest.client} {client : Nat} :
    answerRequest requests client .pending = requests := by
  unfold answerRequest
  dsimp only
  split <;> rfl

theorem answerRequest_status {requests : Table LoginRequest.client} {client : Nat}
    {row : SourceCredential} (h : requests.find? client = some ⟨client, none⟩) :
    (answerRequest requests client (.status (some row))).find? client =
      some ⟨client, some row.scope⟩ := by
  unfold answerRequest
  rw [h]
  exact Table.find?_set.trans (if_pos rfl)

theorem session_of_resumes {phase : CallPhase} (h : resumes? phase = some scope) :
    phase.loginSession?.isSome = true := by
  unfold resumes? at h
  split at h
  · rfl
  · rfl
  · rfl
  · cases h

/-- A request that is resuming goes on, whatever the reply to another call. -/
theorem answerRequest_resuming {requests : Table LoginRequest.client} {client other : Nat}
    {reply : AccessReply} {scope : SourceScope}
    (h : requests.find? other = some ⟨other, some scope⟩) :
    (answerRequest requests client reply).find? other = some ⟨other, some scope⟩ := by
  by_cases hsame : other = client
  · subst hsame
    unfold answerRequest
    rw [h]
    exact h
  · rw [answerRequest_of_ne hsame, h]

/-- The `COMPLETE_LOGIN` of a request after its next step. -/
theorem willResume_advanced {current : OpenCall} {client : Nat} {now : Instant} {returns : Bool}
    {reply : AccessReply} {access : AccessWorld} {actor : SecurityActor}
    (hput : world.access.put client current.call
      (advance env.access current.call now returns world.access.tables current.phase) =
        (reply, access))
    (hrequest : world.requests.find? client = some ⟨client, none⟩)
    (hcaller : current.call.caller = .other actor)
    (hresumes : resumes? current.phase = some scope ∨
      ∃ login old id, current.phase = .stored login old id ∧ login.scope = scope) :
    ∃ request, (answerRequest world.requests client reply).find? client = some request ∧
      request.willResume access.calls scope = true := by
  -- the call goes on with this account, or it has just returned it
  have hnext : ∀ {phase : CallPhase} {tables : AccessTables},
      world.access.put client current.call (.next phase, tables) = (reply, access) →
      resumes? phase = some scope →
      ∃ request, (answerRequest world.requests client reply).find? client = some request ∧
        request.willResume access.calls scope = true := by
    intro phase tables hput hphase
    cases hput
    refine ⟨_, by rw [answerRequest_pending, hrequest], ?_⟩
    unfold LoginRequest.willResume
    dsimp only
    rw [Table.find?_set, if_pos rfl, Option.any_some]
    exact decide_eq_true hphase
  have hended : ∀ {row : SourceCredential} {tables : AccessTables},
      world.access.put client current.call (.ended (.status (some row)), tables) =
        (reply, access) → row.scope = scope →
      ∃ request, (answerRequest world.requests client reply).find? client = some request ∧
        request.willResume access.calls scope = true := by
    intro row tables hput hscope
    cases hput
    exact ⟨_, answerRequest_status hrequest, decide_eq_true hscope⟩
  rcases hresumes with hresumes | ⟨login, old, id, hphase, rfl⟩
  · cases hphase : current.phase with
    | deleting id next =>
      rw [hphase] at hput hresumes
      unfold SourceAccess.advance at hput
      dsimp only at hput
      rw [hcaller] at hput
      cases next with
      | replaced loginSessionId existing =>
        cases existing with
        | none => cases hresumes
        | some row => exact hnext hput hresumes
      | _ => cases hresumes
    | loaded id next =>
      rw [hphase] at hput hresumes
      cases next with
      | replaced loginSessionId existing =>
        cases existing with
        | none => cases hresumes
        | some row => exact hnext hput hresumes
      | _ => cases hresumes
    | forgetting loginSessionId existing =>
      rw [hphase] at hput hresumes
      cases existing with
      | none => cases hresumes
      | some row => exact hended hput (Option.some.inj hresumes)
    | _ =>
      rw [hphase] at hresumes
      cases hresumes
  · have hscope : (world.access.tables.activeRow login.scope id now).scope = login.scope := by
      unfold AccessTables.activeRow
      split <;> rfl
    rw [hphase] at hput
    unfold SourceAccess.advance at hput
    dsimp only at hput
    split at hput
    · exact hended hput hscope
    · split at hput
      · exact hended hput hscope
      · exact hnext hput (congrArg some hscope)

/-! ### Invariants -/

theorem requested_step (h : Requested world)
    (hstep : workerStep env world label = some (reply, world')) : Requested world' := by
  intro other current hcall hsession
  cases workerStep_move hstep with
  | claimed => exact h other current hcall hsession
  | unclaimed => exact h other current hcall hsession
  | access client now answer run result tables hrun hphase _ _ hput =>
    rw [put_access hput] at hcall
    rw [put_requests hput]
    exact h other current hcall hsession
  | complete client lockedAt timestamp run result research hrun hphase _ _ hput =>
    rw [put_access hput] at hcall
    rw [put_requests hput]
    exact h other current hcall hsession
  | heartbeat => exact h other current hcall hsession
  | request client principal correlationId loginSessionId reply access hfree hopen =>
    dsimp only at hcall ⊢
    by_cases hother : other = client
    · subst hother
      obtain ⟨rfl, hsame⟩ := opened_login hopen hcall
      rw [answerRequest_pending, hsame]
      exact ⟨Table.find?_set_self, principal, rfl⟩
    · rw [opened_other hopen (fun _ => nofun) fun hsame => hother (by cases hsame; rfl)] at hcall
      rw [answerRequest_of_ne hother, Table.find?_set, if_neg hother]
      exact h other current hcall hsession
  | resume client now scope reply research hrequest hresume =>
    obtain ⟨hfound, hcaller⟩ := h other current hcall hsession
    refine ⟨?_, hcaller⟩
    dsimp only
    rw [Table.find?_erase, if_neg, hfound]
    rintro rfl
    rw [hrequest] at hfound
    cases hfound
  | opened label reply access houtside hnew hfree hopen =>
    dsimp only at hcall ⊢
    by_cases hother : accessClient label = some (other, true)
    · exact h other current (opened_session hopen houtside hother hcall hsession) hsession
    · rw [opened_other hopen hnew hother] at hcall
      exact h other current hcall hsession
  | advanced client now returns before hbefore hfree reply access hput =>
    dsimp only at hcall ⊢
    by_cases hother : other = client
    · subst hother
      obtain ⟨rfl, hnext, hsame⟩ := put_self hput hcall
      rw [answerRequest_pending, hsame]
      exact h other before hbefore (advance_session hnext hsession)
    · rw [put_other hput hother] at hcall
      rw [answerRequest_of_ne hother]
      exact h other current hcall hsession
  | outsideResearch => exact h other current hcall hsession
  | purgeSources => exact h other current hcall hsession
  | purgeVault => exact h other current hcall hsession

/-- A request that is going to resume an account keeps on going to until it does. -/
theorem willResume_kept (hrequested : Requested world)
    (hstep : workerStep env world label = some (reply, world'))
    (h : world.willResume scope = true)
    (hresume : ∀ client now, label = .resume client now →
      world.requests.find? client ≠ some ⟨client, some scope⟩) :
    world'.willResume scope = true := by
  obtain ⟨client, request, hfound, hwill⟩ := willResume_iff.mp h
  obtain rfl := (Table.find?_eq_some.mp hfound).2
  rw [willResume_iff]
  -- the same request, as long as its own call stays
  have hsame : ∀ {calls : Table OpenCall.client},
      calls.find? request.client = world.access.calls.find? request.client →
      request.willResume calls scope = true := by
    intro calls hcalls
    unfold LoginRequest.willResume at hwill ⊢
    rw [hcalls]
    exact hwill
  cases workerStep_move hstep with
  | claimed => exact ⟨_, request, hfound, hwill⟩
  | unclaimed => exact ⟨_, request, hfound, hwill⟩
  | access client now answer run result tables hrun hphase _ _ hput =>
    rw [put_access hput, put_requests hput]
    exact ⟨_, request, hfound, hwill⟩
  | complete client lockedAt timestamp run result research hrun hphase _ _ hput =>
    rw [put_access hput, put_requests hput]
    exact ⟨_, request, hfound, hwill⟩
  | heartbeat => exact ⟨_, request, hfound, hwill⟩
  | request client principal correlationId loginSessionId reply access hfree hopen =>
    have hother : request.client ≠ client := by
      rintro hsame
      rw [hsame, hfree] at hfound
      cases hfound
    refine ⟨request.client, request, ?_, hsame ?_⟩
    · dsimp only
      rw [answerRequest_of_ne hother, Table.find?_set, if_neg hother, hfound]
    · exact opened_other hopen (fun _ => nofun) fun hsame => hother (by cases hsame; rfl)
  | resume client now resumed reply research hrequest hresumed =>
    refine ⟨request.client, request, ?_, hwill⟩
    dsimp only
    rw [Table.find?_erase, if_neg, hfound]
    rintro rfl
    have hresuming : request.resuming = some resumed :=
      congrArg LoginRequest.resuming (Option.some.inj (hfound.symm.trans hrequest))
    unfold LoginRequest.willResume at hwill
    rw [hresuming] at hwill
    obtain rfl := of_decide_eq_true hwill
    exact hresume _ now rfl hrequest
  | opened label reply access houtside hnew hfree hopen =>
    refine ⟨request.client, request, hfound, hsame (opened_other hopen hnew fun hclient => ?_)⟩
    rw [hfree _ hclient] at hfound
    cases hfound
  | advanced client now returns current hcall hfree reply access hput =>
    by_cases hother : request.client = client
    · obtain ⟨client', resuming⟩ := request
      subst hother
      cases resuming with
      | some resuming => exact ⟨client', _, answerRequest_resuming hfound, hwill⟩
      | none =>
        unfold LoginRequest.willResume at hwill
        dsimp only at hwill hcall hput
        rw [hcall, Option.any_some, decide_eq_true_eq] at hwill
        have hsession := session_of_resumes hwill
        obtain ⟨-, actor, hcaller⟩ := hrequested client' current hcall hsession
        exact ⟨client', willResume_advanced hput hfound hcaller (.inl hwill)⟩
    · refine ⟨request.client, request, ?_, hsame (put_other hput hother)⟩
      dsimp only
      rw [answerRequest_of_ne hother, hfound]
  | outsideResearch => exact ⟨_, request, hfound, hwill⟩
  | purgeSources => exact ⟨_, request, hfound, hwill⟩
  | purgeVault => exact ⟨_, request, hfound, hwill⟩

/-! ### Runs -/

structure Awake (env : WorkerEnvironment) (world : WorkerWorld) : Prop where
  linked : Linked env.research world.research
  requested : Requested world
  woken : Woken world

theorem awake_initial (env : WorkerEnvironment) : Awake env .initial where
  linked := linked_initial
  requested := fun _ _ hcall => absurd (Table.find?_eq_some.mp hcall).1 (Table.not_mem_empty _)
  woken := fun _ hjob => absurd hjob (Table.not_mem_empty _)

/-- A resumed account has no job that waits. -/
theorem not_waiting_resumed {now : Instant} {db : ResearchStore} {job : Job}
    (hjob : job ∈ (resumeSource scope now db).jobs) (hwaits : job.state = .waitingSourceLogin) :
    job.scope ≠ scope := by
  unfold resumeSource at hjob
  dsimp only at hjob
  rw [Table.mem_updateWhere] at hjob
  obtain ⟨old, -, hrow⟩ := hjob
  rintro rfl
  split at hrow
  · subst hrow
    cases hwaits
  · rename_i hother
    subst hrow
    unfold Job.waitsFor at hother
    rw [hwaits] at hother
    simp at hother

theorem awake_step (h : Awake env world) (hguard : ParksAwake world label)
    (hstep : workerStep env world label = some (reply, world')) : Awake env world' := by
  refine ⟨workerStep_linked h.linked hstep, requested_step h.requested hstep, ?_⟩
  intro job hjob hwaits hactive
  have hresume : ∀ client now, label = .resume client now →
      world.requests.find? client ≠ some ⟨client, some job.scope⟩ := by
    rintro client now rfl hfound
    cases workerStep_move hstep with
    | resume _ _ scope reply research hrequest hresumed =>
      rw [hrequest] at hfound
      cases hfound
      cases hresumed
      exact not_waiting_resumed hjob hwaits rfl
  rcases active_before hstep hactive with hbefore | hpublishes
  · -- the credential was active before the step
    refine willResume_kept h.requested hstep ?_ hresume
    rcases waiting_before h.linked hstep hjob hwaits with ⟨old, hold, hwaited, hscope⟩ | hparks
    · rw [← hscope] at hbefore ⊢
      exact h.woken old hold hwaited hbefore
    · exact hguard job.scope hparks hbefore
  · -- the step publishes the credential of a request
    cases workerStep_move hstep with
    | advanced client now returns current hcall hfree reply access hput =>
      unfold WorkerWorld.publishes AccessWorld.publishes at hpublishes
      dsimp only at hpublishes
      rw [hcall, Option.bind_some] at hpublishes
      cases hphase : current.phase with
      | stored login old id =>
        rw [hphase] at hpublishes
        obtain ⟨hrequest, actor, hcaller⟩ := h.requested client current hcall (by rw [hphase]; rfl)
        exact willResume_iff.mpr ⟨client, willResume_advanced hput hrequest hcaller
          (.inr ⟨login, old, id, hphase, Option.some.inj hpublishes⟩)⟩
      | _ =>
        rw [hphase] at hpublishes
        cases hpublishes
    | opened label reply access houtside hnew hfree hopen =>
      cases label with
      | advance client now returns => exact absurd rfl (hnew client)
      | _ => cases hpublishes
    | _ => cases hpublishes

/-- In every run that parks jobs only so, a state without a request in progress has no job that
waits for an active credential. -/
theorem no_lost_wakeup {es : List (Entry WorkerWorld WorkerLabel WorkerReply)}
    (h : Run (workerStep env) .initial es world) (hguard : Guarded ParksAwake es)
    (hidle : world.requests.rows = []) :
    ∀ job ∈ world.research.db.jobs, job.state = .waitingSourceLogin →
      isActive world.access.tables job.scope = false := by
  have hawake : Awake env world := h.invariant awake_step hguard (awake_initial env)
  intro job hjob hwaits
  rw [← Bool.not_eq_true]
  intro hactive
  have hwill := hawake.woken job hjob hwaits hactive
  unfold WorkerWorld.willResume at hwill
  rw [hidle] at hwill
  cases hwill

end Steps

/-! ### Examples -/

instance (world : WorkerWorld) (label : WorkerLabel) : Decidable (ParksAwake world label) :=
  decidable_of_iff ((world.parks label).all fun scope =>
      !isActive world.access.tables scope || world.willResume scope) <| by
    unfold ParksAwake
    rw [Option.all_eq_true]
    refine forall_congr' fun scope => imp_congr_right fun _ => ?_
    rw [Bool.or_eq_true, Bool.not_eq_true', ← Bool.not_eq_true, Decidable.imp_iff_not_or]

/-- The worker has found no credential; it opens a login and parks the job. -/
def sampleParked : List WorkerLabel :=
  [.access 0 4 .nothing, .complete 0 4 4, .complete 0 4 4]

/-- No request and no run is in progress, and a job waits for a credential that is active. -/
def WorkerWorld.stuck (world : WorkerWorld) : Bool :=
  world.requests.rows.isEmpty && world.runs.rows.isEmpty &&
    world.research.db.jobs.rows.any fun job =>
      job.state = .waitingSourceLogin && isActive world.access.tables job.scope

theorem wakeup_lost : ∃ es world, Run (workerStep sampleWorker) .initial es world ∧
    es.map Entry.label =
      sampleClaimed ++ [.access 0 2 .nothing] ++ sampleLoggedIn ++ sampleParked ∧
    world.requests.rows = [] ∧ world.runs.rows = [] ∧
    ∃ job ∈ world.research.db.jobs, job.state = .waitingSourceLogin ∧
      isActive world.access.tables job.scope = true := by
  have hexec : (exec (workerStep sampleWorker) .initial
      (sampleClaimed ++ [.access 0 2 .nothing] ++ sampleLoggedIn ++ sampleParked)).any
      (fun result => result.2.stuck) = true := by decide +kernel
  obtain ⟨es, world, hrun, hlabels, hstuck⟩ := exists_labelled_run_of_exec hexec
  unfold WorkerWorld.stuck at hstuck
  rw [Bool.and_eq_true, Bool.and_eq_true, List.isEmpty_iff, List.isEmpty_iff,
    List.any_eq_true] at hstuck
  obtain ⟨⟨hrequests, hruns⟩, job, hjob, hwaits⟩ := hstuck
  rw [Bool.and_eq_true, decide_eq_true_eq] at hwaits
  exact ⟨es, world, hrun, hlabels, hrequests, hruns, job, hjob, hwaits⟩

/-- The job is parked before the login is completed. -/
theorem no_lost_wakeup_sample : ∃ es world, Run (workerStep sampleWorker) .initial es world ∧
    es.map Entry.label = sampleClaimed ++ [.access 0 2 .nothing] ++ sampleParked ∧
    (∃ job ∈ world.research.db.jobs, job.state = .waitingSourceLogin) ∧
    ∀ job ∈ world.research.db.jobs, job.state = .waitingSourceLogin →
      isActive world.access.tables job.scope = false := by
  have hexec : (exec (workerStep sampleWorker) .initial
      (sampleClaimed ++ [.access 0 2 .nothing] ++ sampleParked)).any
      (fun result => decide (Guarded ParksAwake result.1) && result.2.requests.rows.isEmpty &&
        result.2.research.db.jobs.rows.any fun job => job.state = .waitingSourceLogin) = true := by
    decide +kernel
  obtain ⟨es, world, hrun, hlabels, hcheck⟩ := exists_labelled_run_of_exec hexec
  rw [Bool.and_eq_true, Bool.and_eq_true, List.isEmpty_iff, List.any_eq_true,
    decide_eq_true_eq] at hcheck
  obtain ⟨⟨hguard, hidle⟩, job, hjob, hwaits⟩ := hcheck
  exact ⟨es, world, hrun, hlabels, ⟨job, hjob, of_decide_eq_true hwaits⟩,
    no_lost_wakeup hrun hguard hidle⟩

end ChoiceMind.SourceWorker
