import ChoiceMind.SourceAccess.Interleaving
import ChoiceMind.SourceResearch.System

/-!
# Runs of the source worker

`runOnce` of `createSourceWorker`, one call of its ports after another, under any number of
workers, requests of the API and purges. A run that throws ends as rejected; its job stays as it
is.
-/

namespace ChoiceMind.SourceWorker

set_option autoImplicit false

open Contracts TaskPersistence Security SourceAccess SourceResearch

/-! ### One run -/

/-- The ports of the worker, and the login url of the adapter for a source. -/
structure WorkerEnvironment where
  access : AccessEnvironment
  research : ResearchEnvironment
  adapters : String → Option String

/-- What the adapter does with the credential; `nothing` is a return without an outcome. -/
inductive AdapterAnswer
  | threw
  | nothing
  | outcome (outcome : SourceResearchOutcome)
  | authRequired (challenge : Challenge)
  deriving DecidableEq

inductive RunPhase
  /-- after `claimNext` -/
  | claimed
  /-- the status was `ACTIVE` -/
  | ready
  /-- `withCredential` has read this credential -/
  | reading (credentialId : String)
  | operating (credentialId : String)
  /-- before `MARK_INVALID`, with the credential of the row that `withCredential` has read -/
  | rejected (failed : Option String) (challenge : Challenge)
  /-- after the statement of `MARK_INVALID`, before `vault.delete` -/
  | deleting (failed : Option String) (challenge : Challenge) (row : SourceCredential)
  | loaded (failed : Option String) (challenge : Challenge) (row : SourceCredential)
  /-- before `BEGIN_LOGIN` -/
  | loggingIn (challenge : Challenge)
  /-- before `complete` -/
  | finishing (outcome : SourceResearchOutcome)
  | completing (outcome : SourceResearchOutcome)
  deriving DecidableEq

/-- A `runOnce` that has claimed a job. The heartbeat is on inside of its `try`. -/
structure WorkerRun where
  client : Nat
  claim : SourceResearchClaim
  phase : RunPhase
  heartbeat : Bool
  leaseLost : Bool
  deriving DecidableEq

/-- How a run ends. -/
inductive RunEnd
  /-- `{ claimed: 1, completed: 1 }` after this answer of `complete` -/
  | settled (status : CompleteStatus)
  /-- `{ claimed: 1, completed: 0 }` -/
  | leaseLost
  | rejected (error : AccessError)
  | failed (error : ResearchError)
  deriving DecidableEq

inductive RunResult
  | next (phase : RunPhase) (heartbeat : Bool)
  | ended (result : RunEnd)
  deriving DecidableEq

/-- The system actor of the worker that has made the claim, for the owner of the job. -/
def WorkerRun.call (run : WorkerRun) : SourceCall :=
  ⟨.sourceWorker, .systemActor ("source-worker:" ++ run.claim.workerId),
    run.claim.scope.ownerUserId, run.claim.jobId⟩

def WorkerRun.keep (run : WorkerRun) (phase : RunPhase) : RunResult := .next phase run.heartbeat

/-- `finally` and what follows it -/
def WorkerRun.leave (run : WorkerRun) (phase : RunPhase) : RunResult :=
  if run.leaseLost then .ended .leaseLost else .next phase false

/-- `catch` of an error of `withCredential` -/
def WorkerRun.caught (run : WorkerRun) (read : Option String) (error : AccessError) : RunResult :=
  if error = .message "SOURCE_LOGIN_REQUIRED" ∨ error = .message "CREDENTIAL_NOT_FOUND" then
    run.keep (.rejected read .qrCode)
  else run.leave (.finishing (.failedRetryable "来源研究暂时失败，可从最近检查点恢复"))

/-- `withCredential` has returned. -/
def WorkerRun.answered (run : WorkerRun) (credentialId : String) : AdapterAnswer → RunResult
  | .authRequired challenge => run.leave (.rejected (some credentialId) challenge)
  | .outcome outcome => run.leave (.finishing outcome)
  | _ => run.leave (.finishing (.failedRetryable "来源 Adapter 未返回结果"))

section Step
variable (env : WorkerEnvironment)

/-- The next call of a run to source access, over the tables and the locks of other calls. -/
def accessPhase (run : WorkerRun) (now : Instant) (answer : AdapterAnswer)
    (locked : SourceScope → Bool) (tables : AccessTables) :
    RunPhase → Option (RunResult × AccessTables)
  | .claimed =>
    match env.adapters run.claim.scope.sourceId with
    | none =>
      some (run.keep (.finishing (.failedFinal
        ("没有可用的来源 Adapter：" ++ run.claim.scope.sourceId))), tables)
    | some _ =>
      if (tables.credentials.find? run.claim.scope).any fun row => row.status = .active then
        some (.next .ready true, tables)
      else some (run.keep (.loggingIn .qrCode), tables)
  | .ready =>
    let found := tables.credentials.find? run.claim.scope
    match found.filter fun row => row.status = .active with
    | none => some (run.caught (found.map SourceCredential.credentialId)
      (.message "SOURCE_LOGIN_REQUIRED"), tables)
    | some row => some (run.keep (.reading row.credentialId), tables)
  | .reading credentialId =>
    match advance env.access run.call now true tables (.reading credentialId) with
    | (.ended (.failed error), tables) => some (run.caught (some credentialId) error, tables)
    | (_, tables) => some (run.keep (.operating credentialId), tables)
  | .operating credentialId =>
    match advance env.access run.call now (answer ≠ .threw) tables (.operating credentialId) with
    | (.ended (.failed error), tables) => some (run.caught (some credentialId) error, tables)
    | (_, tables) => some (run.answered credentialId answer, tables)
  | .rejected failed challenge =>
    if locked run.claim.scope then none
    else
      match tables.credentials.find? run.claim.scope with
      | none => some (run.keep (.loggingIn challenge), tables)
      | some row => some (run.keep (.deleting failed challenge row),
        tables.mark run.claim.scope .markInvalid now)
  | .deleting failed challenge row =>
    match advance env.access run.call now true tables
        (.deleting row.credentialId (.marked (row.marked .markInvalid now))) with
    | (.ended (.failed error), tables) => some (.ended (.rejected error), tables)
    | (_, tables) => some (run.keep (.loaded failed challenge row), tables)
  | .loaded _ challenge row =>
    match advance env.access run.call now true tables
        (.loaded row.credentialId (.marked (row.marked .markInvalid now))) with
    | (_, tables) => some (run.keep (.loggingIn challenge), tables)
  | .loggingIn challenge =>
    match beginLoginRow env.access run.claim.scope
        ((env.adapters run.claim.scope.sourceId).getD "") now tables with
    | (.login login, tables) =>
      some (run.leave (.finishing (.waitingChallenge challenge login.loginSessionId)), tables)
    | (.failed error, tables) => some (.ended (.rejected error), tables)
    | _ => none
  | _ => none

/-- The next call of a run to source research. -/
def researchPhase (run : WorkerRun) (lockedAt timestamp : Instant) (research : ResearchWorld) :
    RunPhase → Option (RunResult × ResearchWorld)
  | .finishing outcome =>
    match researchStep env.research research (.beginComplete run.claim outcome) with
    | some (.completed status, research) => some (.ended (.settled status), research)
    | some (_, research) => some (run.keep (.completing outcome), research)
    | none => none
  | .completing outcome =>
    match researchStep env.research research (.settle run.claim outcome lockedAt timestamp) with
    | some (.completed status, research) => some (.ended (.settled status), research)
    | some (.failed error, research) => some (.ended (.failed error), research)
    | _ => none
  | _ => none

end Step

/-! ### The system -/

/-- `fixture-complete`: a `COMPLETE_LOGIN`, and then a `RESUME_SOURCE` of its account. -/
structure LoginRequest where
  client : Nat
  resuming : Option SourceScope
  deriving DecidableEq

structure WorkerWorld where
  access : AccessWorld
  research : ResearchWorld
  runs : Table WorkerRun.client
  requests : Table LoginRequest.client

def WorkerWorld.initial : WorkerWorld := ⟨.initial, .initial, .empty, .empty⟩

inductive WorkerLabel
  | claimNext (client : Nat) (workerId : String) (leaseDurationMs : Int) (now : Instant)
    (locked : String → Bool)
  /-- the next call of a run -/
  | access (client : Nat) (now : Instant) (answer : AdapterAnswer)
  | complete (client : Nat) (lockedAt timestamp : Instant)
  | heartbeat (client : Nat) (leaseDurationMs : Int) (now : Instant)
  | request (client : Nat) (principal : SecurityActor) (correlationId loginSessionId : String)
  | resume (client : Nat) (now : Instant)
  /-- any other call of source access -/
  | outsideAccess (label : AccessLabel)
  /-- any other call of source research -/
  | outsideResearch (label : ResearchLabel)
  | purgeSources (ownerUserId : String)
  | purgeVault (ownerUserId : String)

inductive WorkerReply
  | done
  | access (reply : AccessReply)
  | research (reply : ResearchReply)
  | ended (result : RunEnd)
  deriving DecidableEq

/-- The run after a step. -/
def WorkerWorld.put (world : WorkerWorld) (run : WorkerRun) :
    RunResult → WorkerReply × WorkerWorld
  | .next phase heartbeat =>
    (.done, { world with runs := world.runs.set { run with phase, heartbeat } })
  | .ended result => (.ended result, { world with runs := world.runs.erase run.client })

/-- The calls of source access that neither a request nor a run makes. -/
def isOutsideAccess : AccessLabel → Bool
  | .completeLogin .. => false
  | _ => true

def isOutsideResearch : ResearchLabel → Bool
  | .createBatch .. | .saveCheckpoint .. | .purge _ => true
  | _ => false

/-- The requests after a reply to the `COMPLETE_LOGIN` of one of them. -/
def answerRequest (requests : Table LoginRequest.client) (client : Nat) (reply : AccessReply) :
    Table LoginRequest.client :=
  match requests.find? client with
  | some ⟨_, none⟩ =>
    match reply with
    | .pending => requests
    | .status (some row) => requests.set ⟨client, some row.scope⟩
    | _ => requests.erase client
  | _ => requests

/-- The client whose call a step takes on, and whether the call is a new one. -/
def accessClient : AccessLabel → Option (Nat × Bool)
  | .beginLogin .. => none
  | .completeLogin client .. | .markCredential client .. | .withCredential client .. =>
    some (client, true)
  | .advance client .. => some (client, false)

/-- `purgePrivateDataForOwner` of source access -/
def purgeSources (ownerUserId : String) (tables : AccessTables) : AccessTables :=
  { tables with
    logins := tables.logins.deleteWhere fun login => login.scope.ownerUserId = ownerUserId
    credentials := tables.credentials.deleteWhere fun row => row.scope.ownerUserId = ownerUserId }

section System
variable (env : WorkerEnvironment)

def workerStep (world : WorkerWorld) : WorkerLabel → Option (WorkerReply × WorkerWorld)
  | .claimNext client workerId leaseDurationMs now locked =>
    if (world.runs.find? client).isSome then none
    else
      match researchStep env.research world.research
          (.claimNext workerId leaseDurationMs now locked) with
      | some (.claimed (some claim), research) => some (.research (.claimed (some claim)),
        { world with research, runs := world.runs.set ⟨client, claim, .claimed, false, false⟩ })
      | some (reply, research) => some (.research reply, { world with research })
      | none => none
  | .access client now answer =>
    match world.runs.find? client with
    | none => none
    | some run =>
      match accessPhase env run now answer
          (fun scope => world.access.calls.rows.any fun other => other.phase.holdsRow scope)
          world.access.tables run.phase with
      | none => none
      | some (result, tables) =>
        some ({ world with access := { world.access with tables } }.put run result)
  | .complete client lockedAt timestamp =>
    match world.runs.find? client with
    | none => none
    | some run =>
      match researchPhase env run lockedAt timestamp world.research run.phase with
      | none => none
      | some (result, research) => some ({ world with research }.put run result)
  | .heartbeat client leaseDurationMs now =>
    match (world.runs.find? client).filter WorkerRun.heartbeat with
    | none => none
    | some run =>
      match researchStep env.research world.research
          (.renewLease run.claim leaseDurationMs now) with
      | none => none
      | some (reply, research) => some (.research reply,
        { world with
          research
          runs := world.runs.set
            { run with leaseLost := run.leaseLost || reply ≠ .renewed .renewed } })
  | .request client principal correlationId loginSessionId =>
    if (world.requests.find? client).isSome then none
    else
      match accessStep env.access world.access (.completeLogin client
          ⟨.api, .other principal, principal.userId, correlationId⟩ loginSessionId) with
      | none => none
      | some (reply, access) => some (.access reply,
        { world with
          access
          requests := answerRequest (world.requests.set ⟨client, none⟩) client reply })
  | .resume client now =>
    match (world.requests.find? client).bind LoginRequest.resuming with
    | none => none
    | some scope =>
      match researchStep env.research world.research (.resumeSource scope now) with
      | none => none
      | some (reply, research) => some (.research reply,
        { world with research, requests := world.requests.erase client })
  | .outsideAccess label =>
    if !isOutsideAccess label || (accessClient label).any fun caller =>
        caller.2 && (world.requests.find? caller.1).isSome then none
    else
      match accessStep env.access world.access label with
      | none => none
      | some (reply, access) => some (.access reply,
        { world with
          access
          requests :=
            match accessClient label with
            | some (client, false) => answerRequest world.requests client reply
            | _ => world.requests })
  | .outsideResearch label =>
    if !isOutsideResearch label then none
    else
      match researchStep env.research world.research label with
      | none => none
      | some (reply, research) => some (.research reply, { world with research })
  | .purgeSources ownerUserId =>
    if world.access.calls.rows.any fun other =>
        other.call.ownerUserId = ownerUserId && other.phase.login?.isSome then none
    else some (.done, { world with
      access := { world.access with tables := purgeSources ownerUserId world.access.tables } })
  | .purgeVault ownerUserId =>
    some (.done, { world with
      access := { world.access with
        tables := { world.access.tables with
          vault := world.access.tables.vault.deleteWhere fun row =>
            row.key.ownerUserId = ownerUserId } } })

end System

end ChoiceMind.SourceWorker
