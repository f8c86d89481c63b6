import ChoiceMind.SourceAccess.Access
import Mathlib.Data.Prod.Lex
import Mathlib.Data.String.Basic

/-!
# Source research jobs

The tables of `openPostgresSourceResearch` and its statements. A batch has one job for each
source; a worker claims a job for the time of a lease and settles it with one outcome.
-/

namespace ChoiceMind.SourceResearch

set_option autoImplicit false

open Contracts SourceAccess

/-! ### Rows -/

inductive Challenge
  | qrCode
  | sms
  | captcha
  deriving DecidableEq, Repr

inductive SourceResearchOutcome
  | evidence (resultKey evidenceId summary : String) (costUnits : Int)
  | noResult (summary : String) (costUnits : Int)
  | waitingChallenge (challenge : Challenge) (loginSessionId : String)
  | failedRetryable (summary : String)
  | failedFinal (summary : String)
  deriving DecidableEq

inductive JobState
  | queued
  | running
  | waitingSourceLogin
  | completed
  | noResult
  | failedRetryable
  | failedFinal
  deriving DecidableEq, Repr

/-- `terminal` -/
def JobState.isTerminal : JobState → Bool
  | completed | noResult | failedFinal => true
  | _ => false

structure Batch where
  batchId : String
  ownerUserId : String
  decisionTaskId : String
  idempotencyKey : String
  requestFingerprint : String
  query : String
  createdAt : Instant
  updatedAt : Instant
  deriving DecidableEq

structure Job where
  jobId : String
  batchId : String
  decisionTaskId : String
  query : String
  scope : SourceScope
  state : JobState
  /-- a JSON text -/
  checkpoint : Option String
  outcome : Option SourceResearchOutcome
  workerId : Option String
  leaseExpiresAt : Option Instant
  attemptCount : Nat
  nextAttemptAt : Option Instant
  costUnits : Int
  createdAt : Instant
  updatedAt : Instant
  deriving DecidableEq

/-- `ORDER BY created_at, job_id` -/
def Job.order (job : Job) : Instant ×ₗ String := toLex (job.createdAt, job.jobId)

structure ResearchResult where
  jobId : String
  batchId : String
  ownerUserId : String
  resultKey : String
  evidenceId : String
  summary : String
  costUnits : Int
  createdAt : Instant
  deriving DecidableEq

/-- `PRIMARY KEY (job_id, result_key)` -/
def ResearchResult.key (result : ResearchResult) : String × String :=
  (result.jobId, result.resultKey)

structure ResearchStore where
  batches : Table Batch.batchId
  jobs : Table Job.jobId
  results : Table ResearchResult.key
  uuidsDrawn : Nat

/-- The tables after the migration. -/
def ResearchStore.empty : ResearchStore := ⟨.empty, .empty, .empty, 0⟩

structure SourceResearchClaim where
  jobId : String
  batchId : String
  scope : SourceScope
  decisionTaskId : String
  query : String
  checkpoint : Option String
  workerId : String
  attemptCount : Nat
  deriving DecidableEq

/-! ### What the module takes from the platform -/

structure SourceRef where
  sourceId : String
  sourceAccountId : String
  deriving DecidableEq

/-- Uuids that never repeat, the SHA-256 digest, `JSON.stringify` of a request and the order of
`localeCompare`. -/
structure ResearchEnvironment where
  randomUUID : Nat → String
  randomUUID_injective : Function.Injective randomUUID
  sha256 : String → String
  stringify : (decisionTaskId query : String) → List SourceRef → String
  localeLe : String → String → Bool

inductive ResearchError
  | message (text : String)
  /-- a constraint of the tables -/
  | constraint
  deriving DecidableEq

def trim (text : String) : String :=
  .ofList ((text.toList.dropWhile isWhiteSpace).reverse.dropWhile isWhiteSpace).reverse

/-- `INTEGER CHECK (cost_units >= 0)` -/
def isCostUnits (costUnits : Int) : Bool := 0 ≤ costUnits && costUnits ≤ 2147483647

/-! ### Commands -/

structure CreateBatchCommand where
  batchId : String
  ownerUserId : String
  decisionTaskId : String
  idempotencyKey : String
  query : String
  sources : List SourceRef
  deriving DecidableEq

def CreateBatchCommand.isInvalid (command : CreateBatchCommand) : Bool :=
  command.sources.length = 0 || 10 < command.sources.length || trim command.query = "" ||
    4000 < (codeUnits command.query).length ||
    200 < (codeUnits command.decisionTaskId).length ||
    200 < (codeUnits command.idempotencyKey).length ||
    command.sources.any fun source =>
      100 < (codeUnits source.sourceId).length || 200 < (codeUnits source.sourceAccountId).length

section Commands
variable (env : ResearchEnvironment)

def normalizedSources (command : CreateBatchCommand) : List SourceRef :=
  command.sources.mergeSort fun left right =>
    env.localeLe (left.sourceId ++ "\x00" ++ left.sourceAccountId)
      (right.sourceId ++ "\x00" ++ right.sourceAccountId)

def requestFingerprint (command : CreateBatchCommand) : String :=
  env.sha256 (env.stringify command.decisionTaskId (trim command.query)
    (normalizedSources env command))

/-- The job of a source; a second one in its batch breaks a constraint. -/
def insertJob (command : CreateBatchCommand) (timestamp : Instant) (db : ResearchStore)
    (source : SourceRef) : Except ResearchError ResearchStore :=
  let scope : SourceScope := ⟨command.ownerUserId, source.sourceId, source.sourceAccountId⟩
  let job : Job :=
    { jobId := env.randomUUID db.uuidsDrawn
      batchId := command.batchId
      decisionTaskId := command.decisionTaskId
      query := trim command.query
      scope
      state := .queued
      checkpoint := none
      outcome := none
      workerId := none
      leaseExpiresAt := none
      attemptCount := 0
      nextAttemptAt := some timestamp
      costUnits := 0
      createdAt := timestamp
      updatedAt := timestamp }
  if db.jobs.rows.any fun old => old.batchId = command.batchId && old.scope = scope then
    .error .constraint
  else
    match db.jobs.insert? job with
    | none => .error .constraint
    | some jobs => .ok { db with jobs, uuidsDrawn := db.uuidsDrawn + 1 }

/-- The transaction of `CREATE_BATCH`. -/
def createBatch (command : CreateBatchCommand) (timestamp : Instant) (db : ResearchStore) :
    Except ResearchError ResearchStore :=
  if command.isInvalid then .error (.message "SOURCE_RESEARCH_BATCH_INVALID")
  else
    let fingerprint := requestFingerprint env command
    match db.batches.rows.find? fun batch =>
        batch.ownerUserId = command.ownerUserId &&
          batch.idempotencyKey = command.idempotencyKey with
    | some batch =>
      if batch.requestFingerprint ≠ fingerprint then
        .error (.message "SOURCE_RESEARCH_IDEMPOTENCY_CONFLICT")
      else .ok db
    | none =>
      match db.batches.insert? ⟨command.batchId, command.ownerUserId, command.decisionTaskId,
          command.idempotencyKey, fingerprint, trim command.query, timestamp, timestamp⟩ with
      | none => .error .constraint
      | some batches =>
        (normalizedSources env command).foldlM (insertJob env command timestamp)
          { db with batches }

end Commands

/-- `RESUME_SOURCE` -/
def Job.resumed (now : Instant) (job : Job) : Job :=
  { job with state := .queued, workerId := none, leaseExpiresAt := none, updatedAt := now }

theorem Job.resumed_key (now : Instant) : ∀ job : Job, (job.resumed now).jobId = job.jobId :=
  fun _ => rfl

def Job.waitsFor (scope : SourceScope) (job : Job) : Bool :=
  job.scope = scope && job.state = .waitingSourceLogin

def resumeSource (scope : SourceScope) (now : Instant) (db : ResearchStore) : ResearchStore :=
  { db with
    jobs := db.jobs.updateWhere (Job.waitsFor scope) (Job.resumed now) (Job.resumed_key now) }

/-! ### Claims -/

def Job.leaseExpired (now : Instant) (job : Job) : Bool :=
  job.leaseExpiresAt.any fun leaseExpiresAt => leaseExpiresAt ≤ now

/-- A claim of an expired lease that has no attempt left. -/
def Job.isExhausted (now : Instant) (job : Job) : Bool :=
  job.state = .running && job.leaseExpired now && 5 ≤ job.attemptCount

def Job.exhausted (now : Instant) (job : Job) : Job :=
  { job with
    state := .failedFinal
    workerId := none
    leaseExpiresAt := none
    nextAttemptAt := none
    outcome := some (.failedFinal "来源研究重试次数已耗尽")
    updatedAt := now }

theorem Job.exhausted_key (now : Instant) :
    ∀ job : Job, (job.exhausted now).jobId = job.jobId := fun _ => rfl

def Job.isClaimable (now : Instant) (job : Job) : Bool :=
  job.state = .queued ||
    (job.state = .failedRetryable &&
      job.nextAttemptAt.any fun nextAttemptAt => nextAttemptAt ≤ now) ||
    (job.state = .running && job.leaseExpired now && job.attemptCount < 5)

def Job.claimed (workerId : String) (leaseDurationMs : Int) (now : Instant) (job : Job) : Job :=
  { job with
    state := .running
    workerId := some workerId
    leaseExpiresAt := some (now + leaseDurationMs)
    attemptCount := job.attemptCount + 1
    updatedAt := now }

theorem Job.claimed_key (workerId : String) (leaseDurationMs : Int) (now : Instant) :
    ∀ job : Job, (job.claimed workerId leaseDurationMs now).jobId = job.jobId := fun _ => rfl

def Job.claim (workerId : String) (job : Job) : SourceResearchClaim :=
  ⟨job.jobId, job.batchId, job.scope, job.decisionTaskId, job.query, job.checkpoint, workerId,
    job.attemptCount + 1⟩

/-- `Number.isSafeInteger(leaseDurationMs) && leaseDurationMs > 0` -/
def isLeaseDuration (leaseDurationMs : Int) : Bool :=
  0 < leaseDurationMs && leaseDurationMs ≤ 9007199254740991

/-- The jobs after the exhausted ones have failed. -/
def ResearchStore.expire (now : Instant) (db : ResearchStore) : ResearchStore :=
  { db with
    jobs := db.jobs.updateWhere (Job.isExhausted now) (Job.exhausted now)
      (Job.exhausted_key now) }

/-- The first claimable job that no other transaction has locked. -/
def nextJob (now : Instant) (locked : String → Bool) (db : ResearchStore) : Option Job :=
  ((db.jobs.select fun job => job.isClaimable now && !locked job.jobId).insertionSort
    fun a b => a.order ≤ b.order).head?

def claimNext (workerId : String) (leaseDurationMs : Int) (now : Instant)
    (locked : String → Bool) (db : ResearchStore) :
    Except ResearchError (Option SourceResearchClaim × ResearchStore) :=
  if !isLeaseDuration leaseDurationMs then .error (.message "SOURCE_RESEARCH_LEASE_INVALID")
  else
    let db := db.expire now
    match nextJob now locked db with
    | none => .ok (none, db)
    | some job => .ok (some (job.claim workerId),
      { db with
        jobs := db.jobs.update job.jobId (Job.claimed workerId leaseDurationMs now)
          (Job.claimed_key workerId leaseDurationMs now) })

/-- `WHERE job_id = $1 AND worker_id = $2 AND state = 'RUNNING' AND lease_expires_at > $4` -/
def Job.heldBy (claim : SourceResearchClaim) (now : Instant) (job : Job) : Bool :=
  job.jobId = claim.jobId && job.workerId = some claim.workerId && job.state = .running &&
    job.leaseExpiresAt.any fun leaseExpiresAt => now < leaseExpiresAt

/-- The row that a claim still holds. -/
def ResearchStore.held (claim : SourceResearchClaim) (now : Instant) (db : ResearchStore) :
    Option Job :=
  (db.jobs.find? claim.jobId).filter fun job => job.heldBy claim now

def Job.renewed (leaseDurationMs : Int) (now : Instant) (job : Job) : Job :=
  { job with leaseExpiresAt := some (now + leaseDurationMs), updatedAt := now }

theorem Job.renewed_key (leaseDurationMs : Int) (now : Instant) :
    ∀ job : Job, (job.renewed leaseDurationMs now).jobId = job.jobId := fun _ => rfl

inductive RenewStatus
  | renewed
  | leaseLost
  deriving DecidableEq, Repr

def renewLease (claim : SourceResearchClaim) (leaseDurationMs : Int) (now : Instant)
    (db : ResearchStore) : Except ResearchError (RenewStatus × ResearchStore) :=
  if !isLeaseDuration leaseDurationMs then .error (.message "SOURCE_RESEARCH_LEASE_INVALID")
  else
    match db.held claim now with
    | none => .ok (.leaseLost, db)
    | some job => .ok (.renewed,
      { db with
        jobs := db.jobs.update job.jobId (Job.renewed leaseDurationMs now)
          (Job.renewed_key leaseDurationMs now) })

def Job.checkpointed (checkpoint : String) (now : Instant) (job : Job) : Job :=
  { job with checkpoint := some checkpoint, updatedAt := now }

theorem Job.checkpointed_key (checkpoint : String) (now : Instant) :
    ∀ job : Job, (job.checkpointed checkpoint now).jobId = job.jobId := fun _ => rfl

inductive SaveStatus
  | saved
  | leaseLost
  deriving DecidableEq, Repr

def saveCheckpoint (claim : SourceResearchClaim) (checkpoint : String) (now : Instant)
    (db : ResearchStore) : SaveStatus × ResearchStore :=
  match db.held claim now with
  | none => (.leaseLost, db)
  | some job => (.saved,
    { db with
      jobs := db.jobs.update job.jobId (Job.checkpointed checkpoint now)
        (Job.checkpointed_key checkpoint now) })

/-! ### Completion -/

inductive CompleteStatus
  | committed
  | alreadyCommitted
  | leaseLost
  deriving DecidableEq, Repr

/-- The first statement of `complete`: the result is there already. -/
def alreadyCommitted (claim : SourceResearchClaim) (outcome : SourceResearchOutcome)
    (db : ResearchStore) : Bool :=
  match outcome with
  | .evidence resultKey .. => (db.results.find? (claim.jobId, resultKey)).isSome
  | _ => false

/-- `finishJob` -/
def Job.finished (state : JobState) (timestamp : Instant) (outcome : Option SourceResearchOutcome)
    (costUnits : Int) (nextAttemptAt : Option Instant) (job : Job) : Job :=
  { job with
    state
    outcome
    costUnits
    workerId := none
    leaseExpiresAt := none
    nextAttemptAt
    updatedAt := timestamp }

/-- `Math.min(300_000, 1_000 * 2 ** (attempts - 1))`, which is 500 where there was no attempt. -/
def retryDelayMs (attempts : Nat) : Int := min 300000 (500 * 2 ^ attempts)

/-- The row that an outcome leaves. -/
def Job.settled (outcome : SourceResearchOutcome) (timestamp : Instant) (job : Job) : Job :=
  match outcome with
  | .evidence _ _ _ costUnits => job.finished .completed timestamp none costUnits none
  | .noResult _ costUnits => job.finished .noResult timestamp (some outcome) costUnits none
  | .waitingChallenge .. => job.finished .waitingSourceLogin timestamp (some outcome) 0 none
  | .failedRetryable _ =>
    if 5 ≤ job.attemptCount then job.finished .failedFinal timestamp (some outcome) 0 none
    else job.finished .failedRetryable timestamp (some outcome) 0
      (some (timestamp + retryDelayMs job.attemptCount))
  | .failedFinal _ => job.finished .failedFinal timestamp (some outcome) 0 none

theorem Job.settled_key (outcome : SourceResearchOutcome) (timestamp : Instant) :
    ∀ job : Job, (job.settled outcome timestamp).jobId = job.jobId := by
  intro job
  cases outcome with
  | evidence => rfl
  | noResult => rfl
  | waitingChallenge => rfl
  | failedFinal => rfl
  | failedRetryable =>
    unfold Job.settled
    dsimp only
    split <;> rfl

/-- The costs of an outcome. -/
def SourceResearchOutcome.costUnits : SourceResearchOutcome → Int
  | .evidence _ _ _ costUnits => costUnits
  | .noResult _ costUnits => costUnits
  | _ => 0

/-- The result row of an outcome. -/
def recordResult (claim : SourceResearchClaim) (outcome : SourceResearchOutcome)
    (timestamp : Instant) (db : ResearchStore) : Option (Table ResearchResult.key) :=
  match outcome with
  | .evidence resultKey evidenceId summary costUnits =>
    if (db.batches.find? claim.batchId).isNone then none
    else db.results.insert? ⟨claim.jobId, claim.batchId, claim.scope.ownerUserId, resultKey,
      evidenceId, summary, costUnits, timestamp⟩
  | _ => some db.results

/-- The rest of `complete`, from the lock of the job row on. -/
def settleJob (claim : SourceResearchClaim) (outcome : SourceResearchOutcome)
    (lockedAt timestamp : Instant) (db : ResearchStore) :
    Except ResearchError (CompleteStatus × ResearchStore) :=
  match db.held claim lockedAt with
  | none => .ok (.leaseLost, db)
  | some job =>
    if !isCostUnits outcome.costUnits then .error .constraint
    else
      match recordResult claim outcome timestamp db with
      | none => .error .constraint
      | some results => .ok (.committed,
        { db with
          results
          jobs := db.jobs.update job.jobId (Job.settled outcome timestamp)
            (Job.settled_key outcome timestamp)
          batches := db.batches.update claim.batchId fun batch =>
            { batch with updatedAt := timestamp } })

/-- The batch is one of this owner. -/
def ResearchStore.ownsBatch (db : ResearchStore) (ownerUserId batchId : String) : Bool :=
  (db.batches.find? batchId).any fun batch => batch.ownerUserId = ownerUserId

/-- The batches of an owner with their jobs and results. -/
def purgePrivateDataForOwner (ownerUserId : String) (db : ResearchStore) : ResearchStore :=
  { db with
    batches := db.batches.deleteWhere fun batch => batch.ownerUserId = ownerUserId
    jobs := db.jobs.deleteWhere fun job => db.ownsBatch ownerUserId job.batchId
    results := db.results.deleteWhere fun result => db.ownsBatch ownerUserId result.batchId }

end ChoiceMind.SourceResearch
