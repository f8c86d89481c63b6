import ChoiceMind.SourceAccess.Interleaving
import ChoiceMind.SourceWorker.Runs

/-!
# Moves of workers, requests and purges

What one step of the system, one call of a run to source access and one to source research can be.
-/

namespace ChoiceMind.SourceWorker

set_option autoImplicit false

open Contracts TaskPersistence Security SourceAccess SourceResearch

/-! ### Moves -/

/-- The tables after a step of a run. -/
def WorkerWorld.withTables (world : WorkerWorld) (tables : AccessTables) : WorkerWorld :=
  { world with access := { world.access with tables } }

/-- What a step can be. -/
inductive WorkerMove (env : WorkerEnvironment) (world : WorkerWorld) :
    WorkerLabel → WorkerReply → WorkerWorld → Prop
  | claimed (client : Nat) (workerId : String) (leaseDurationMs : Int) (now : Instant)
    (locked : String → Bool) (claim : SourceResearchClaim) (research : ResearchWorld)
    (hfree : world.runs.find? client = none)
    (hstep : researchStep env.research world.research
      (.claimNext workerId leaseDurationMs now locked) = some (.claimed (some claim), research)) :
    WorkerMove env world (.claimNext client workerId leaseDurationMs now locked)
      (.research (.claimed (some claim)))
      { world with research, runs := world.runs.set ⟨client, claim, .claimed, false, false⟩ }
  | unclaimed (client : Nat) (workerId : String) (leaseDurationMs : Int) (now : Instant)
    (locked : String → Bool) (reply : ResearchReply) (research : ResearchWorld)
    (hnone : ∀ claim, reply ≠ .claimed (some claim))
    (hstep : researchStep env.research world.research
      (.claimNext workerId leaseDurationMs now locked) = some (reply, research)) :
    WorkerMove env world (.claimNext client workerId leaseDurationMs now locked)
      (.research reply) { world with research }
  | access (client : Nat) (now : Instant) (answer : AdapterAnswer) (run : WorkerRun)
    (result : RunResult) (tables : AccessTables) (hrun : world.runs.find? client = some run)
    (hphase : accessPhase env run now answer
      (fun scope => world.access.calls.rows.any fun other => other.phase.holdsRow scope)
      world.access.tables run.phase = some (result, tables)) (reply : WorkerReply)
    (world' : WorkerWorld) (hput : (world.withTables tables).put run result = (reply, world')) :
    WorkerMove env world (.access client now answer) reply world'
  | complete (client : Nat) (lockedAt timestamp : Instant) (run : WorkerRun) (result : RunResult)
    (research : ResearchWorld) (hrun : world.runs.find? client = some run)
    (hphase : researchPhase env run lockedAt timestamp world.research run.phase =
      some (result, research)) (reply : WorkerReply) (world' : WorkerWorld)
    (hput : ({ world with research } : WorkerWorld).put run result = (reply, world')) :
    WorkerMove env world (.complete client lockedAt timestamp) reply world'
  | heartbeat (client : Nat) (leaseDurationMs : Int) (now : Instant) (run : WorkerRun)
    (reply : ResearchReply) (research : ResearchWorld) (hrun : world.runs.find? client = some run)
    (hon : run.heartbeat = true)
    (hstep : researchStep env.research world.research
      (.renewLease run.claim leaseDurationMs now) = some (reply, research)) :
    WorkerMove env world (.heartbeat client leaseDurationMs now) (.research reply)
      { world with
        research
        runs := world.runs.set
          { run with leaseLost := run.leaseLost || reply ≠ .renewed .renewed } }
  | request (client : Nat) (principal : SecurityActor) (correlationId loginSessionId : String)
    (reply : AccessReply) (access : AccessWorld) (hfree : world.requests.find? client = none)
    (hstep : accessStep env.access world.access (.completeLogin client
      ⟨.api, .other principal, principal.userId, correlationId⟩ loginSessionId) =
        some (reply, access)) :
    WorkerMove env world (.request client principal correlationId loginSessionId) (.access reply)
      { world with
        access
        requests := answerRequest (world.requests.set ⟨client, none⟩) client reply }
  | resume (client : Nat) (now : Instant) (scope : SourceScope) (reply : ResearchReply)
    (research : ResearchWorld)
    (hrequest : world.requests.find? client = some ⟨client, some scope⟩)
    (hstep : researchStep env.research world.research (.resumeSource scope now) =
      some (reply, research)) :
    WorkerMove env world (.resume client now) (.research reply)
      { world with research, requests := world.requests.erase client }
  | opened (label : AccessLabel) (reply : AccessReply) (access : AccessWorld)
    (hlogin : isOutsideAccess label = true) (hnew : ∀ client, accessClient label ≠ some (client, false))
    (hfree : ∀ client, accessClient label = some (client, true) →
      world.requests.find? client = none)
    (hstep : accessStep env.access world.access label = some (reply, access)) :
    WorkerMove env world (.outsideAccess label) (.access reply) { world with access }
  | advanced (client : Nat) (now : Instant) (returns : Bool) (current : OpenCall)
    (hcall : world.access.calls.find? client = some current)
    (hfree : world.access.waitsFor current.phase = false) (reply : AccessReply)
    (access : AccessWorld)
    (hput : world.access.put client current.call (advance env.access current.call now returns
      world.access.tables current.phase) = (reply, access)) :
    WorkerMove env world (.outsideAccess (.advance client now returns)) (.access reply)
      { world with access, requests := answerRequest world.requests client reply }
  | outsideResearch (label : ResearchLabel) (reply : ResearchReply) (research : ResearchWorld)
    (houtside : isOutsideResearch label = true)
    (hstep : researchStep env.research world.research label = some (reply, research)) :
    WorkerMove env world (.outsideResearch label) (.research reply) { world with research }
  | purgeSources (ownerUserId : String) :
    WorkerMove env world (.purgeSources ownerUserId) .done
      (world.withTables (purgeSources ownerUserId world.access.tables))
  | purgeVault (ownerUserId : String) :
    WorkerMove env world (.purgeVault ownerUserId) .done
      (world.withTables { world.access.tables with
        vault := world.access.tables.vault.deleteWhere fun row =>
          row.key.ownerUserId = ownerUserId })

section Moves
variable {env : WorkerEnvironment} {world world' : WorkerWorld} {label : WorkerLabel}
  {reply : WorkerReply}

theorem workerStep_move (h : workerStep env world label = some (reply, world')) :
    WorkerMove env world label reply world' := by
  unfold workerStep at h
  cases label with
  | claimNext client workerId leaseDurationMs now locked =>
    dsimp only at h
    split at h
    · cases h
    · rename_i hfree
      split at h
      · cases h
        exact .claimed client workerId leaseDurationMs now locked _ _
          (Option.not_isSome_iff_eq_none.mp hfree) ‹_›
      · rename_i reply research hother hstep
        cases h
        exact .unclaimed client workerId leaseDurationMs now locked _ _ hother hstep
      · cases h
  | access client now answer =>
    dsimp only at h
    split at h
    · cases h
    · rename_i run hrun
      split at h
      · cases h
      · rename_i result tables hphase
        exact .access client now answer run result tables hrun hphase _ _ (Option.some.inj h)
  | complete client lockedAt timestamp =>
    dsimp only at h
    split at h
    · cases h
    · rename_i run hrun
      split at h
      · cases h
      · rename_i result research hphase
        exact .complete client lockedAt timestamp run result research hrun hphase _ _
          (Option.some.inj h)
  | heartbeat client leaseDurationMs now =>
    dsimp only at h
    split at h
    · cases h
    · rename_i run hrun
      rw [Option.filter_eq_some_iff] at hrun
      split at h
      · cases h
      · cases h
        exact .heartbeat client leaseDurationMs now run _ _ hrun.1 hrun.2 ‹_›
  | request client principal correlationId loginSessionId =>
    dsimp only at h
    split at h
    · cases h
    · rename_i hfree
      split at h
      · cases h
      · cases h
        exact .request client principal correlationId loginSessionId _ _
          (Option.not_isSome_iff_eq_none.mp hfree) ‹_›
  | resume client now =>
    dsimp only at h
    split at h
    · cases h
    · rename_i scope hscope
      rw [Option.bind_eq_some_iff] at hscope
      obtain ⟨⟨client', resuming⟩, hrequest, hresuming⟩ := hscope
      cases hresuming
      obtain rfl := (Table.find?_eq_some.mp hrequest).2
      split at h
      · cases h
      · cases h
        exact .resume _ now scope _ _ hrequest ‹_›
  | outsideAccess label =>
    dsimp only at h
    split at h
    · cases h
    · rename_i hfree
      rw [Bool.or_eq_true, not_or, Bool.not_eq_true', Bool.not_eq_false] at hfree
      obtain ⟨hlogin, hbusy⟩ := hfree
      cases label with
      | completeLogin => cases hlogin
      | beginLogin scope officialLoginUrl now =>
        split at h
        · cases h
        · cases h
          exact .opened _ _ _ hlogin (by rintro _ ⟨⟩) (by rintro _ ⟨⟩) ‹_›
      | markCredential client call sourceId sourceAccountId command now =>
        split at h
        · cases h
        · cases h
          refine .opened _ _ _ hlogin (by rintro _ ⟨⟩) (fun client' hclient => ?_) ‹_›
          cases hclient
          simpa [accessClient] using hbusy
      | withCredential client call sourceId sourceAccountId =>
        split at h
        · cases h
        · cases h
          refine .opened _ _ _ hlogin (by rintro _ ⟨⟩) (fun client' hclient => ?_) ‹_›
          cases hclient
          simpa [accessClient] using hbusy
      | advance client now returns =>
        unfold accessStep at h
        dsimp only at h
        split at h
        · cases h
        · rename_i reply' access' hstep
          split at hstep
          · cases hstep
          · rename_i current hcall
            split at hstep
            · cases hstep
            · rename_i hfree
              cases h
              exact .advanced client now returns current hcall (by simpa using hfree) _ _
                (Option.some.inj hstep)
  | outsideResearch label =>
    dsimp only at h
    split at h
    · cases h
    · rename_i houtside
      split at h
      · cases h
      · cases h
        exact .outsideResearch label _ _ (by simpa using houtside) ‹_›
  | purgeSources ownerUserId =>
    dsimp only at h
    split at h
    · cases h
    · cases h
      exact .purgeSources ownerUserId
  | purgeVault ownerUserId =>
    cases h
    exact .purgeVault ownerUserId

end Moves

/-! ### Calls of a run -/

/-- What the next call of a run to source access can be. -/
inductive AccessMove (env : WorkerEnvironment) (run : WorkerRun) (now : Instant)
    (answer : AdapterAnswer) (locked : SourceScope → Bool) (tables : AccessTables) :
    RunPhase → RunResult → AccessTables → Prop
  | noAdapter : AccessMove env run now answer locked tables .claimed
      (run.keep (.finishing (.failedFinal
        ("没有可用的来源 Adapter：" ++ run.claim.scope.sourceId)))) tables
  | active : AccessMove env run now answer locked tables .claimed (.next .ready true) tables
  | inactive : AccessMove env run now answer locked tables .claimed
      (run.keep (.loggingIn .qrCode)) tables
  | absent : AccessMove env run now answer locked tables .ready
      (run.keep (.rejected ((tables.credentials.find? run.claim.scope).map
        SourceCredential.credentialId) .qrCode)) tables
  | found (row : SourceCredential) : AccessMove env run now answer locked tables .ready
      (run.keep (.reading row.credentialId)) tables
  | missing (credentialId : String) (haudit : env.access.systemAuditError = none)
    (hmissing : tables.holdsSource ⟨run.claim.scope.ownerUserId, credentialId⟩ = false) :
    AccessMove env run now answer locked tables (.reading credentialId)
      (run.keep (.rejected (some credentialId) .qrCode)) tables
  | unread (credentialId : String) :
    AccessMove env run now answer locked tables (.reading credentialId)
      (run.leave (.finishing (.failedRetryable "来源研究暂时失败，可从最近检查点恢复"))) tables
  | read (credentialId : String) :
    AccessMove env run now answer locked tables (.reading credentialId)
      (run.keep (.operating credentialId)) tables
  | authRequired (credentialId : String) (challenge : Challenge)
    (hanswer : answer = .authRequired challenge) :
    AccessMove env run now answer locked tables (.operating credentialId)
      (run.leave (.rejected (some credentialId) challenge)) tables
  | operated (credentialId : String) (outcome : SourceResearchOutcome) :
    AccessMove env run now answer locked tables (.operating credentialId)
      (run.leave (.finishing outcome)) tables
  | unmarked (failed : Option String) (challenge : Challenge)
    (hfree : locked run.claim.scope = false) :
    AccessMove env run now answer locked tables (.rejected failed challenge)
      (run.keep (.loggingIn challenge)) tables
  | marked (failed : Option String) (challenge : Challenge) (row : SourceCredential)
    (hfree : locked run.claim.scope = false)
    (hrow : tables.credentials.find? run.claim.scope = some row) :
    AccessMove env run now answer locked tables (.rejected failed challenge)
      (run.keep (.deleting failed challenge row)) (tables.mark run.claim.scope .markInvalid now)
  | undeleted (failed : Option String) (challenge : Challenge) (row : SourceCredential)
    (error : AccessError) (hrefused : (env.access.systemAuditError.isSome ||
      !tables.holdsSource ⟨run.claim.scope.ownerUserId, row.credentialId⟩) = true) :
    AccessMove env run now answer locked tables (.deleting failed challenge row)
      (.ended (.rejected error)) tables
  | loaded (failed : Option String) (challenge : Challenge) (row : SourceCredential)
    (hloads : (env.access.systemAuditError.isSome ||
      !tables.holdsSource ⟨run.claim.scope.ownerUserId, row.credentialId⟩) = false) :
    AccessMove env run now answer locked tables (.deleting failed challenge row)
      (run.keep (.loaded failed challenge row)) tables
  | deleted (failed : Option String) (challenge : Challenge) (row : SourceCredential) :
    AccessMove env run now answer locked tables (.loaded failed challenge row)
      (run.keep (.loggingIn challenge))
      { tables with
        vault := tables.vault.erase ⟨run.claim.scope.ownerUserId, row.credentialId⟩ }
  | loggedIn (challenge : Challenge) (login : SourceLogin) (tables' : AccessTables)
    (hlogin : beginLoginRow env.access run.claim.scope
      ((env.adapters run.claim.scope.sourceId).getD "") now tables = (.login login, tables')) :
    AccessMove env run now answer locked tables (.loggingIn challenge)
      (run.leave (.finishing (.waitingChallenge challenge login.loginSessionId))) tables'
  | refused (challenge : Challenge) (error : AccessError) (tables' : AccessTables)
    (hlogin : beginLoginRow env.access run.claim.scope
      ((env.adapters run.claim.scope.sourceId).getD "") now tables = (.failed error, tables')) :
    AccessMove env run now answer locked tables (.loggingIn challenge)
      (.ended (.rejected error)) tables'

section AccessMoves
variable {env : WorkerEnvironment} {run : WorkerRun} {now : Instant} {answer : AdapterAnswer}
  {locked : SourceScope → Bool} {before after : AccessTables} {phase : RunPhase}
  {result : RunResult}

theorem leave_next {phase next : RunPhase} {heartbeat : Bool}
    (h : run.leave next = .next phase heartbeat) : next = phase ∧ run.leaseLost = false := by
  unfold WorkerRun.leave at h
  split at h
  · cases h
  · rename_i hheld
    cases h
    exact ⟨rfl, by simpa using hheld⟩

/-- The vault throws to the system actor that it has no such credential, or another error. -/
theorem advance_reading (credentialId : String) :
    advance env.access run.call now true before (.reading credentialId) =
        (.next (.operating credentialId), before) ∨
      ∃ error, advance env.access run.call now true before (.reading credentialId) =
          (.ended (.failed error), before) ∧ error ≠ .message "SOURCE_LOGIN_REQUIRED" ∧
        (error = .message "CREDENTIAL_NOT_FOUND" → env.access.systemAuditError = none ∧
          before.holdsSource ⟨run.claim.scope.ownerUserId, credentialId⟩ = false) := by
  unfold advance WorkerRun.call
  dsimp only
  split
  · rename_i hrefused
    refine .inr ⟨_, rfl, ?_, ?_⟩
    · unfold deniedError
      split
      · rintro ⟨⟩
      · decide
    · unfold deniedError
      split
      · rintro ⟨⟩
      · rename_i haudit
        intro _
        exact ⟨haudit, by simpa [haudit] using hrefused⟩
  · split
    · exact .inl rfl
    · exact .inr ⟨_, rfl, by decide, fun h => absurd h (by decide)⟩

theorem accessPhase_move
    (h : accessPhase env run now answer locked before phase = some (result, after)) :
    AccessMove env run now answer locked before phase result after := by
  unfold accessPhase at h
  cases phase with
  | claimed =>
    dsimp only at h
    split at h
    · cases h
      exact .noAdapter
    · split at h
      · cases h
        exact .active
      · cases h
        exact .inactive
  | ready =>
    dsimp only at h
    split at h
    · cases h
      unfold WorkerRun.caught
      rw [if_pos (.inl rfl)]
      exact .absent
    · cases h
      exact .found _
  | reading credentialId =>
    dsimp only at h
    obtain hread | ⟨error, hthrown, hother, hmissing⟩ :
        advance env.access run.call now true before (.reading credentialId) = _ ∨ _ :=
      advance_reading credentialId
    · rw [hread] at h
      cases h
      exact .read credentialId
    · rw [hthrown] at h
      cases h
      unfold WorkerRun.caught
      split
      · rename_i hcaught
        obtain ⟨haudit, habsent⟩ := hmissing (hcaught.resolve_left hother)
        exact .missing credentialId haudit habsent
      · exact .unread credentialId
  | operating credentialId =>
    unfold advance at h
    dsimp only at h
    split at h
    · rename_i hthrew
      cases h
      unfold WorkerRun.caught
      split at hthrew
      · cases hthrew
      · cases hthrew
        rw [if_neg (by decide)]
        exact .operated credentialId _
    · rename_i hreturns
      cases hreturns
      cases h
      cases answer with
      | authRequired challenge => exact .authRequired credentialId challenge rfl
      | _ => exact .operated credentialId _
  | rejected failed challenge =>
    dsimp only at h
    split at h
    · cases h
    · rename_i hfree
      split at h
      · cases h
        exact .unmarked failed challenge (by simpa using hfree)
      · cases h
        exact .marked failed challenge _ (by simpa using hfree) ‹_›
  | deleting failed challenge row =>
    unfold advance WorkerRun.call at h
    dsimp only at h
    cases hrefused : env.access.systemAuditError.isSome ||
        !before.holdsSource ⟨run.claim.scope.ownerUserId, row.credentialId⟩ with
    | true =>
      rw [hrefused] at h
      cases h
      exact .undeleted failed challenge row _ hrefused
    | false =>
      rw [hrefused] at h
      cases h
      exact .loaded failed challenge row hrefused
  | loaded failed challenge row =>
    cases h
    exact .deleted failed challenge row
  | loggingIn challenge =>
    dsimp only at h
    split at h
    · cases h
      exact .loggedIn challenge _ _ ‹_›
    · cases h
      exact .refused challenge _ _ ‹_›
    · cases h
  | finishing outcome => cases h
  | completing outcome => cases h

end AccessMoves

/-! ### Completion -/

/-- What the next call of a run to source research can be. -/
inductive CompleteMove (env : WorkerEnvironment) (run : WorkerRun) (lockedAt timestamp : Instant)
    (research : ResearchWorld) : RunPhase → RunResult → ResearchWorld → Prop
  | repeated (outcome : SourceResearchOutcome)
    (hcommitted : alreadyCommitted run.claim outcome research.db = true)
    (hstep : researchStep env.research research (.beginComplete run.claim outcome) =
      some (.completed .alreadyCommitted, research)) :
    CompleteMove env run lockedAt timestamp research (.finishing outcome)
      (.ended (.settled .alreadyCommitted)) research
  | begun (outcome : SourceResearchOutcome) (research' : ResearchWorld)
    (hopen : alreadyCommitted run.claim outcome research.db = false)
    (hcompleting : (run.claim, outcome) ∈ research'.completing)
    (hstep : researchStep env.research research (.beginComplete run.claim outcome) =
      some (.done, research')) :
    CompleteMove env run lockedAt timestamp research (.finishing outcome)
      (run.keep (.completing outcome)) research'
  | settled (outcome : SourceResearchOutcome) (status : CompleteStatus)
    (research' : ResearchWorld)
    (hstep : researchStep env.research research (.settle run.claim outcome lockedAt timestamp) =
      some (.completed status, research')) :
    CompleteMove env run lockedAt timestamp research (.completing outcome)
      (.ended (.settled status)) research'
  | refused (outcome : SourceResearchOutcome) (error : ResearchError) (research' : ResearchWorld)
    (hstep : researchStep env.research research (.settle run.claim outcome lockedAt timestamp) =
      some (.failed error, research')) :
    CompleteMove env run lockedAt timestamp research (.completing outcome)
      (.ended (.failed error)) research'

theorem researchPhase_move {env : WorkerEnvironment} {run : WorkerRun}
    {lockedAt timestamp : Instant} {before after : ResearchWorld} {phase : RunPhase}
    {result : RunResult}
    (h : researchPhase env run lockedAt timestamp before phase = some (result, after)) :
    CompleteMove env run lockedAt timestamp before phase result after := by
  unfold researchPhase at h
  split at h
  · rename_i outcome
    by_cases hclaim : run.claim ∈ before.claims
    · cases hcommitted : alreadyCommitted run.claim outcome before.db with
      | true =>
        have hstep : researchStep env.research before (.beginComplete run.claim outcome) =
            some (.completed .alreadyCommitted, before) := by
          unfold researchStep
          dsimp only
          rw [if_neg (not_not.mpr hclaim), hcommitted]
          rfl
        rw [hstep] at h
        cases h
        exact .repeated outcome hcommitted hstep
      | false =>
        have hstep : researchStep env.research before (.beginComplete run.claim outcome) =
            some (.done, { before with
              completing := before.completing ++ [(run.claim, outcome)] }) := by
          unfold researchStep
          dsimp only
          rw [if_neg (not_not.mpr hclaim), hcommitted]
          rfl
        rw [hstep] at h
        cases h
        exact .begun outcome _ hcommitted List.mem_concat_self hstep
    · unfold researchStep at h
      dsimp only at h
      rw [if_pos hclaim] at h
      cases h
  · rename_i outcome
    split at h
    · cases h
      exact .settled outcome _ _ ‹_›
    · cases h
      exact .refused outcome _ _ ‹_›
    · cases h
  · cases h

end ChoiceMind.SourceWorker
