import ChoiceMind.SourceResearch.Jobs

/-!
# Batches as they are read

`readBatch` puts a view together from three queries: the batch, its jobs and its results.
-/

namespace ChoiceMind.SourceResearch

set_option autoImplicit false

open Contracts SourceAccess

inductive BatchState
  | queued
  | running
  | waitingSourceLogin
  | completed
  | failed
  deriving DecidableEq, Repr

structure JobView where
  jobId : String
  sourceId : String
  sourceAccountId : String
  state : JobState
  loginSessionId : Option String
  deriving DecidableEq

structure ResultView where
  resultKey : String
  evidenceId : String
  summary : String
  deriving DecidableEq

/-- `SourceResearchBatch` -/
structure BatchView where
  batchId : String
  ownerUserId : String
  decisionTaskId : String
  query : String
  state : BatchState
  costUnits : Int
  jobs : List JobView
  results : List ResultView
  createdAt : Instant
  updatedAt : Instant
  deriving DecidableEq

/-! ### The queries -/

def ResearchStore.queryBatch (db : ResearchStore) (batchId ownerUserId : String) : Option Batch :=
  (db.batches.find? batchId).filter fun batch => batch.ownerUserId = ownerUserId

def ResearchStore.queryJobs (db : ResearchStore) (batchId : String) : List Job :=
  (db.jobs.select fun job => job.batchId = batchId).insertionSort fun a b => a.order ≤ b.order

/-- `ORDER BY created_at, result_key` -/
def ResearchResult.order (result : ResearchResult) : Instant ×ₗ String :=
  toLex (result.createdAt, result.resultKey)

def ResearchStore.queryResults (db : ResearchStore) (batchId : String) : List ResearchResult :=
  (db.results.select fun result => result.batchId = batchId).insertionSort
    fun a b => a.order ≤ b.order

/-! ### The view -/

def batchState (states : List JobState) : BatchState :=
  if states.any (· = .waitingSourceLogin) then .waitingSourceLogin
  else if states.all JobState.isTerminal && states.any (· = .failedFinal) then .failed
  else if states.all fun state => state = .completed || state = .noResult then .completed
  else if states.any (· = .running) then .running
  else .queued

def Job.view (job : Job) : JobView where
  jobId := job.jobId
  sourceId := job.scope.sourceId
  sourceAccountId := job.scope.sourceAccountId
  state := job.state
  loginSessionId :=
    match job.state, job.outcome with
    | .waitingSourceLogin, some (.waitingChallenge _ loginSessionId) => some loginSessionId
    | _, _ => none

def ResearchResult.view (result : ResearchResult) : ResultView :=
  ⟨result.resultKey, result.evidenceId, result.summary⟩

/-- The view that `readBatch` returns for its rows. -/
def batchView (batch : Batch) (jobs : List Job) (results : List ResearchResult) : BatchView where
  batchId := batch.batchId
  ownerUserId := batch.ownerUserId
  decisionTaskId := batch.decisionTaskId
  query := batch.query
  state := batchState (jobs.map Job.state)
  costUnits := (jobs.map Job.costUnits).sum
  jobs := jobs.map Job.view
  results := results.map ResearchResult.view
  createdAt := batch.createdAt
  updatedAt := batch.updatedAt

/-- The view of one state. -/
def ResearchStore.view (db : ResearchStore) (batchId ownerUserId : String) : Option BatchView :=
  (db.queryBatch batchId ownerUserId).map fun batch =>
    batchView batch (db.queryJobs batchId) (db.queryResults batchId)

end ChoiceMind.SourceResearch
