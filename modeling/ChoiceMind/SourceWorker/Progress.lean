import ChoiceMind.SourceWorker.Steps

/-!
# Progress of runs

A run in progress is never stuck but for a lock that a login holds, each of its steps brings it
nearer to its end, and it is the only run of its claim.
-/

namespace ChoiceMind.SourceWorker

set_option autoImplicit false

open Contracts TaskPersistence Security SourceAccess SourceResearch Transition

/-! ### Logins -/

/-- No login has an id that is still to be drawn. -/
def LoginsIssued (env : AccessEnvironment) (tables : AccessTables) : Prop :=
  ∀ login ∈ tables.logins, ∀ index, tables.uuidsDrawn ≤ index →
    login.loginSessionId ≠ env.randomUUID index

section Logins
variable {env : AccessEnvironment} {before after : AccessTables}

theorem LoginsIssued.keep (h : LoginsIssued env before)
    (hdrawn : before.uuidsDrawn ≤ after.uuidsDrawn)
    (hlogins : ∀ login ∈ after.logins, ∃ old ∈ before.logins,
      old.loginSessionId = login.loginSessionId) : LoginsIssued env after := by
  intro login hlogin index hindex
  obtain ⟨old, hold, hsame⟩ := hlogins login hlogin
  rw [← hsame]
  exact h old hold index (hdrawn.trans hindex)

theorem LoginsIssued.of_eq (h : LoginsIssued env before)
    (hdrawn : before.uuidsDrawn ≤ after.uuidsDrawn) (hlogins : after.logins = before.logins) :
    LoginsIssued env after :=
  h.keep hdrawn fun login hlogin => ⟨login, hlogins ▸ hlogin, rfl⟩

theorem LoginsIssued.update {loginSessionId : String} {f : SourceLogin → SourceLogin}
    (h : LoginsIssued env before)
    (hf : ∀ login, (f login).loginSessionId = login.loginSessionId)
    (hdrawn : before.uuidsDrawn ≤ after.uuidsDrawn)
    (hlogins : after.logins = before.logins.update loginSessionId f hf) :
    LoginsIssued env after := by
  refine h.keep hdrawn fun login hlogin => ?_
  rw [hlogins, Table.mem_update] at hlogin
  obtain ⟨old, hold, hrow⟩ := hlogin
  refine ⟨old, hold, ?_⟩
  subst hrow
  split
  · exact (hf old).symm
  · rfl

/-- A new login is inserted. -/
theorem beginLogin_inserts (h : LoginsIssued env before) (scope : SourceScope)
    (officialLoginUrl : String) (now : Instant) :
    ∃ login logins, before.logins.insert? login = some logins ∧
      login.loginSessionId = env.randomUUID before.uuidsDrawn ∧
      beginLoginRow env scope officialLoginUrl now before =
        (.login login, { before with logins, uuidsDrawn := before.uuidsDrawn + 1 }) := by
  obtain ⟨logins, hinsert⟩ := Table.exists_insert? (t := before.logins)
    (r := (⟨env.randomUUID before.uuidsDrawn, scope, officialLoginUrl, .waitingChallenge, none,
      now, now⟩ : SourceLogin))
    fun login hlogin => h login hlogin _ (Nat.le_refl _)
  refine ⟨_, logins, hinsert, rfl, ?_⟩
  unfold beginLoginRow
  dsimp only
  rw [hinsert]

theorem LoginsIssued.beginLogin (h : LoginsIssued env before) (scope : SourceScope)
    (officialLoginUrl : String) (now : Instant) :
    LoginsIssued env (beginLoginRow env scope officialLoginUrl now before).2 := by
  obtain ⟨login, logins, hinsert, hid, hbegins⟩ :=
    beginLogin_inserts h scope officialLoginUrl now
  rw [hbegins]
  intro other hother index hindex
  dsimp only at hother hindex
  rcases (Table.mem_insert? hinsert).mp hother with hold | rfl
  · exact h other hold index (by omega)
  · rw [hid]
    intro hsame
    have hdrawn := env.randomUUID_injective hsame
    omega

theorem LoginsIssued.advance (h : LoginsIssued env before) (call : SourceCall) (now : Instant)
    (returns : Bool) (phase : CallPhase) :
    LoginsIssued env (advance env call now returns before phase).2 := by
  unfold SourceAccess.advance
  cases phase with
  | opened login => exact h.of_eq (Nat.le_succ _) rfl
  | locked login old credentialId =>
    dsimp only
    split <;> exact h.of_eq (Nat.le_refl _) rfl
  | stored login old credentialId =>
    have hpublish : LoginsIssued env (before.publish login old credentialId now) :=
      h.update (SourceLogin.completed_key _ now) (Nat.le_refl _) rfl
    dsimp only
    split
    · exact hpublish
    · split <;> exact hpublish
  | deleting credentialId next =>
    dsimp only
    split
    · split <;> exact h
    · exact h.of_eq (Nat.le_refl _) rfl
  | loaded credentialId next => exact h.of_eq (Nat.le_refl _) rfl
  | forgetting loginSessionId existing =>
    exact h.update SourceLogin.forgotten_key (Nat.le_refl _) rfl
  | reading credentialId =>
    dsimp only
    repeat' split
    all_goals exact h
  | operating credentialId => exact h

theorem LoginsIssued.opened {world world' : AccessWorld} {label : AccessLabel}
    {reply : AccessReply} (h : LoginsIssued env world.tables)
    (hnew : ∀ client, accessClient label ≠ some (client, false))
    (hstep : accessStep env world label = some (reply, world')) :
    LoginsIssued env world'.tables := by
  unfold accessStep at hstep
  cases label with
  | beginLogin scope officialLoginUrl now =>
    cases hstep
    exact h.beginLogin scope officialLoginUrl now
  | completeLogin client call id =>
    dsimp only at hstep
    repeat' split at hstep
    all_goals try cases hstep
    · exact h
    · exact h
    · exact h.of_eq (Nat.le_of_eq (congrArg AccessTables.uuidsDrawn
        (tables_of_put (Option.some.inj hstep))).symm) (congrArg AccessTables.logins
        (tables_of_put (Option.some.inj hstep)))
  | markCredential client call sourceId sourceAccountId command now =>
    dsimp only at hstep
    repeat' split at hstep
    all_goals try cases hstep
    · exact h
    · rw [tables_of_put (Option.some.inj hstep)]
      unfold markRow
      split
      · exact h
      · exact h.of_eq (Nat.le_refl _) rfl
  | withCredential client call sourceId sourceAccountId =>
    dsimp only at hstep
    repeat' split at hstep
    all_goals try cases hstep
    · exact h
    · rw [tables_of_put (Option.some.inj hstep)]
      exact h
  | advance client now returns => exact absurd rfl (hnew client)

end Logins

section LoginSteps
variable {env : WorkerEnvironment} {world world' : WorkerWorld} {label : WorkerLabel}
  {reply : WorkerReply}

theorem LoginsIssued.accessPhase {run : WorkerRun} {now : Instant} {answer : AdapterAnswer}
    {locked : SourceScope → Bool} {before after : AccessTables} {phase : RunPhase}
    {result : RunResult} (h : LoginsIssued env.access before)
    (hmove : AccessMove env run now answer locked before phase result after) :
    LoginsIssued env.access after := by
  cases hmove with
  | marked => exact h.of_eq (Nat.le_refl _) rfl
  | deleted => exact h.of_eq (Nat.le_refl _) rfl
  | loggedIn challenge login tables hlogin =>
    have hbegun := h.beginLogin run.claim.scope
      ((env.adapters run.claim.scope.sourceId).getD "") now
    rwa [hlogin] at hbegun
  | refused challenge error tables hlogin =>
    have hbegun := h.beginLogin run.claim.scope
      ((env.adapters run.claim.scope.sourceId).getD "") now
    rwa [hlogin] at hbegun
  | _ => exact h

theorem loginsIssued_step (h : LoginsIssued env.access world.access.tables)
    (hstep : workerStep env world label = some (reply, world')) :
    LoginsIssued env.access world'.access.tables := by
  cases workerStep_move hstep with
  | access client now answer run result tables hrun hphase _ _ hput =>
    rw [put_access hput]
    exact h.accessPhase (accessPhase_move hphase)
  | complete client lockedAt timestamp run result research hrun hphase _ _ hput =>
    rw [put_access hput]
    exact h
  | request client principal correlationId loginSessionId reply access hfree hopen =>
    refine h.opened ?_ hopen
    rintro client' hclient
    cases hclient
  | opened label reply access hlogin hnew hfree hopen => exact h.opened hnew hopen
  | advanced client now returns current hcall hfree reply access hput =>
    rw [tables_of_put hput]
    exact h.advance current.call now returns current.phase
  | purgeSources ownerUserId =>
    exact h.keep (Nat.le_refl _) fun login hlogin =>
      ⟨login, (Table.mem_deleteWhere.mp hlogin).1, rfl⟩
  | purgeVault ownerUserId => exact h.of_eq (Nat.le_refl _) rfl
  | _ => exact h

end LoginSteps

/-! ### Runs -/

/-- The client whose run takes a step. -/
def WorkerLabel.run? : WorkerLabel → Option Nat
  | .access client .. | .complete client .. => some client
  | _ => none

/-- A bound of the steps that a run still takes. -/
def RunPhase.remaining : RunPhase → Nat
  | .claimed => 9
  | .ready => 8
  | .reading _ => 7
  | .operating _ => 6
  | .rejected .. => 5
  | .deleting .. => 4
  | .loaded .. => 3
  | .loggingIn _ => 2
  | .finishing _ => 1
  | .completing _ => 0

section Phases
variable {env : WorkerEnvironment} {run : WorkerRun} {result : RunResult} {old phase : RunPhase}
  {heartbeat : Bool}

theorem access_remaining {now : Instant} {answer : AdapterAnswer} {locked : SourceScope → Bool}
    {before after : AccessTables} (hmove : AccessMove env run now answer locked before old result after)
    (hresult : result = .next phase heartbeat) :
    phase.remaining < old.remaining ∧ ∀ outcome, phase ≠ .completing outcome := by
  have hkeep : ∀ {next : RunPhase}, run.keep next = .next phase heartbeat → phase = next := by
    intro next hkept
    cases hkept
    rfl
  have hleave : ∀ {next : RunPhase}, run.leave next = .next phase heartbeat → phase = next :=
    fun hleft => (leave_next hleft).1.symm
  cases hmove with
  | active =>
    cases hresult
    exact ⟨by simp only [RunPhase.remaining]; omega, fun _ => nofun⟩
  | unread | authRequired | operated | loggedIn =>
    rw [hleave hresult]
    exact ⟨by simp only [RunPhase.remaining]; omega, fun _ => nofun⟩
  | undeleted => cases hresult
  | refused => cases hresult
  | _ =>
    rw [hkeep hresult]
    exact ⟨by simp only [RunPhase.remaining]; omega, fun _ => nofun⟩

theorem complete_remaining {lockedAt timestamp : Instant} {before after : ResearchWorld}
    (hmove : CompleteMove env run lockedAt timestamp before old result after)
    (hresult : result = .next phase heartbeat) :
    phase.remaining < old.remaining ∧
      ∀ outcome, phase = .completing outcome → (run.claim, outcome) ∈ after.completing := by
  cases hmove with
  | begun outcome research' hopen hcompleting =>
    cases hresult
    refine ⟨by simp only [RunPhase.remaining]; omega, fun outcome' hsame => ?_⟩
    cases hsame
    exact hcompleting
  | _ => cases hresult

end Phases

/-- A run after a step: the run of before, or one of a claim that has just been given out. -/
inductive RunStep (world world' : WorkerWorld) (label : WorkerLabel) (reply : WorkerReply)
    (client : Nat) (run' : WorkerRun) : Prop
  | kept (run : WorkerRun) (hrun : world.runs.find? client = some run)
    (hclaim : run'.claim = run.claim) (hphase : run'.phase = run.phase)
    (hother : label.run? ≠ some client)
  | moved (run : WorkerRun) (hrun : world.runs.find? client = some run)
    (hclaim : run'.claim = run.claim) (hown : label.run? = some client)
    (hless : run'.phase.remaining < run.phase.remaining)
    (hcompleting : ∀ outcome, run'.phase = .completing outcome →
      (run'.claim, outcome) ∈ world'.research.completing)
  | claimed (workerId : String) (leaseDurationMs : Int) (now : Instant) (locked : String → Bool)
    (hlabel : label = .claimNext client workerId leaseDurationMs now locked)
    (hphase : run'.phase = .claimed) (hgiven : run'.claim ∉ world.research.claims)
    (hmem : run'.claim ∈ world'.research.claims)

/-- What every state of the system keeps. -/
structure Working (env : WorkerEnvironment) (world : WorkerWorld) : Prop where
  consistent : Consistent env.research world.research
  numbered : Numbered world.research
  issued : LoginsIssued env.access world.access.tables
  given : ∀ client run, world.runs.find? client = some run → run.claim ∈ world.research.claims
  apart : ∀ client client' run run', world.runs.find? client = some run →
    world.runs.find? client' = some run' → run.claim = run'.claim → client = client'
  completing : ∀ client run outcome, world.runs.find? client = some run →
    run.phase = .completing outcome → (run.claim, outcome) ∈ world.research.completing

section Steps
variable {env : WorkerEnvironment} {world world' : WorkerWorld} {label : WorkerLabel}
  {reply : WorkerReply} {client : Nat} {run' : WorkerRun}

theorem workerStep_run (hconsistent : Consistent env.research world.research)
    (hnumbered : Numbered world.research)
    (hstep : workerStep env world label = some (reply, world'))
    (hrun' : world'.runs.find? client = some run') :
    RunStep world world' label reply client run' := by
  have hput : ∀ {before : WorkerWorld} {run : WorkerRun} {result : RunResult},
      before.put run result = (reply, world') → before.runs = world.runs →
      label.run? = some run.client → world.runs.find? run.client = some run →
      (∀ phase heartbeat, result = .next phase heartbeat →
        phase.remaining < run.phase.remaining ∧ ∀ outcome, phase = .completing outcome →
          (run.claim, outcome) ∈ world'.research.completing) →
      RunStep world world' label reply client run' := by
    intro before run result hput hruns hown hrun hresult
    rcases put_runs hput hrun' with ⟨rfl, phase, heartbeat, hnext, rfl⟩ | ⟨hother, hbefore⟩
    · obtain ⟨hless, hcompleting⟩ := hresult phase heartbeat hnext
      exact .moved run hrun rfl hown hless hcompleting
    · rw [hruns] at hbefore
      refine .kept run' hbefore rfl rfl ?_
      rw [hown]
      exact fun hsame => hother (Option.some.inj hsame).symm
  cases workerStep_move hstep with
  | claimed client' workerId leaseDurationMs now locked claim research hfree hclaim =>
    dsimp only at hrun'
    rw [Table.find?_set] at hrun'
    split at hrun'
    · rename_i hsame
      cases hrun'
      obtain rfl : client = client' := hsame
      have hgiven : claim ∈ (ResearchReply.claimed (some claim)).given := List.mem_singleton_self _
      refine .claimed workerId leaseDurationMs now locked rfl rfl
        (given_fresh hconsistent.linked hnumbered hclaim hgiven) ?_
      dsimp only
      rw [(researchStep_grown hclaim).claims]
      exact List.mem_append_right _ hgiven
    · exact .kept run' hrun' rfl rfl nofun
  | access client' now answer run result tables hrun hphase _ _ hnext =>
    obtain rfl := (Table.find?_eq_some.mp hrun).2
    refine hput hnext rfl rfl hrun fun phase heartbeat hresult => ?_
    obtain ⟨hless, hother⟩ := access_remaining (accessPhase_move hphase) hresult
    exact ⟨hless, fun outcome hsame => absurd hsame (hother outcome)⟩
  | complete client' lockedAt timestamp run result research hrun hphase _ _ hnext =>
    obtain rfl := (Table.find?_eq_some.mp hrun).2
    refine hput hnext rfl rfl hrun fun phase heartbeat hresult => ?_
    rw [put_research hnext]
    exact complete_remaining (researchPhase_move hphase) hresult
  | heartbeat client' leaseDurationMs now run answer research hrun hon hrenew =>
    dsimp only at hrun'
    rw [Table.find?_set] at hrun'
    split at hrun'
    · rename_i hsame
      cases hrun'
      obtain rfl := (Table.find?_eq_some.mp hrun).2
      obtain rfl : client = run.client := hsame
      exact .kept run hrun rfl rfl nofun
    · exact .kept run' hrun' rfl rfl nofun
  | _ => exact .kept run' hrun' rfl rfl nofun

/-- A call of `complete` is ended by a step of its own run. -/
theorem run_of_completes {call : ResearchLabel}
    {completing : SourceResearchClaim × SourceResearchOutcome}
    (hstep : workerStep env world label = some (reply, world'))
    (h : world.researchCall label = some call) (hends : call.completes = some completing) :
    ∃ client run, label.run? = some client ∧ world.runs.find? client = some run ∧
      run.claim = completing.1 := by
  unfold WorkerWorld.researchCall at h
  cases label with
  | complete client lockedAt timestamp =>
    dsimp only at h
    obtain ⟨run, hrun, hcall⟩ := Option.bind_eq_some_iff.mp h
    refine ⟨client, run, rfl, hrun, ?_⟩
    split at hcall
    · cases hcall
      cases hends
    · cases hcall
      cases hends
      rfl
    · cases hcall
  | outsideResearch call =>
    cases h
    cases workerStep_move hstep with
    | outsideResearch _ _ _ houtside =>
      cases call with
      | settle => cases houtside
      | rollback => cases houtside
      | _ => cases hends
  | resume client now =>
    obtain ⟨scope, -, hcall⟩ := Option.map_eq_some_iff.mp h
    cases hcall
    cases hends
  | heartbeat client leaseDurationMs now =>
    obtain ⟨run, -, hcall⟩ := Option.map_eq_some_iff.mp h
    cases hcall
    cases hends
  | claimNext =>
    cases h
    cases hends
  | _ => cases h

theorem working_step (h : Working env world)
    (hstep : workerStep env world label = some (reply, world')) : Working env world' := by
  have hresearch := workerStep_research hstep
  have hrun : ∀ {client : Nat} {run' : WorkerRun}, world'.runs.find? client = some run' →
      RunStep world world' label reply client run' :=
    workerStep_run h.consistent h.numbered hstep
  have hclaims : ∀ claim ∈ world.research.claims, claim ∈ world'.research.claims := by
    intro claim hclaim
    rcases hresearch with hsame | ⟨call, answer, -, hcall⟩
    · rwa [hsame]
    · rw [(researchStep_grown hcall).claims]
      exact List.mem_append_left _ hclaim
  refine ⟨?_, ?_, loginsIssued_step h.issued hstep, ?_, ?_, ?_⟩
  · rcases hresearch with hsame | ⟨call, answer, -, hcall⟩
    · rw [hsame]
      exact h.consistent
    · exact consistent_step h.consistent hcall
  · rcases hresearch with hsame | ⟨call, answer, -, hcall⟩
    · rw [hsame]
      exact h.numbered
    · exact numbered_step h.consistent.linked h.numbered hcall
  · intro client run' hfound
    cases hrun hfound with
    | kept run hbefore hclaim =>
      rw [hclaim]
      exact hclaims _ (h.given client run hbefore)
    | moved run hbefore hclaim =>
      rw [hclaim]
      exact hclaims _ (h.given client run hbefore)
    | claimed _ _ _ _ _ _ _ hmem => exact hmem
  · -- a claim just given out is none of those before
    have hold : ∀ {client : Nat} {run' : WorkerRun}, world'.runs.find? client = some run' →
        run'.claim ∈ world.research.claims → ∃ run, world.runs.find? client = some run ∧
          run'.claim = run.claim := by
      intro client run' hfound hmem
      cases hrun hfound with
      | kept run hbefore hclaim => exact ⟨run, hbefore, hclaim⟩
      | moved run hbefore hclaim => exact ⟨run, hbefore, hclaim⟩
      | claimed _ _ _ _ _ _ hgiven => exact absurd hmem hgiven
    intro client client' run run' hfound hfound' hsame
    by_cases hmem : run.claim ∈ world.research.claims
    · obtain ⟨before, hbefore, hclaim⟩ := hold hfound hmem
      obtain ⟨before', hbefore', hclaim'⟩ := hold hfound' (hsame ▸ hmem)
      exact h.apart client client' before before' hbefore hbefore'
        (hclaim.symm.trans (hsame.trans hclaim'))
    · have hnew : ∀ {client : Nat} {run' : WorkerRun}, world'.runs.find? client = some run' →
          run'.claim ∉ world.research.claims → ∃ workerId leaseDurationMs now locked,
            label = .claimNext client workerId leaseDurationMs now locked := by
        intro client run' hfound hfresh
        cases hrun hfound with
        | kept run hbefore hclaim => exact absurd (hclaim ▸ h.given client run hbefore) hfresh
        | moved run hbefore hclaim => exact absurd (hclaim ▸ h.given client run hbefore) hfresh
        | claimed workerId leaseDurationMs now locked hlabel =>
          exact ⟨workerId, leaseDurationMs, now, locked, hlabel⟩
      obtain ⟨_, _, _, _, hlabel⟩ := hnew hfound hmem
      obtain ⟨_, _, _, _, hlabel'⟩ := hnew hfound' (hsame ▸ hmem)
      rw [hlabel] at hlabel'
      cases hlabel'
      rfl
  · intro client run' outcome hfound hphase
    cases hrun hfound with
    | kept run hbefore hclaim hsame hother =>
      have hpending := h.completing client run outcome hbefore (hsame.symm.trans hphase)
      rw [hclaim]
      rcases hresearch with hsame | ⟨call, answer, hcall, hresearch⟩
      · rwa [hsame]
      · refine completing_kept hresearch hpending fun hends => ?_
        obtain ⟨client', run', hown, hrun', hclaim'⟩ := run_of_completes hstep hcall hends
        have hclient := h.apart client' client run' run hrun' hbefore hclaim'
        exact hother (hclient ▸ hown)
    | moved run hbefore hclaim hown hless hcompleting => exact hcompleting outcome hphase
    | claimed _ _ _ _ _ hclaimed =>
      rw [hclaimed] at hphase
      cases hphase

end Steps

end ChoiceMind.SourceWorker
