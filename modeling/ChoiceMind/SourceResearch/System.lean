import ChoiceMind.Foundation.Transition
import ChoiceMind.SourceResearch.Jobs

/-!
# Source research under many workers

Any workers, one statement or row lock after another. A `complete` reads the results first and
locks its job later, so that other calls come in between; a call whose connection breaks is
rolled back.
-/

namespace ChoiceMind.SourceResearch

set_option autoImplicit false

open Contracts SourceAccess Transition

/-! ### Steps -/

/-- The tables, the claims given out so far and the calls of `complete` between their first
statement and their lock. -/
structure ResearchWorld where
  db : ResearchStore
  claims : List SourceResearchClaim
  completing : List (SourceResearchClaim × SourceResearchOutcome)

def ResearchWorld.initial : ResearchWorld := ⟨.empty, [], []⟩

inductive ResearchLabel
  | createBatch (command : CreateBatchCommand) (now : Instant)
  | resumeSource (scope : SourceScope) (now : Instant)
  | claimNext (workerId : String) (leaseDurationMs : Int) (now : Instant) (locked : String → Bool)
  | renewLease (claim : SourceResearchClaim) (leaseDurationMs : Int) (now : Instant)
  | saveCheckpoint (claim : SourceResearchClaim) (checkpoint : String) (now : Instant)
  | beginComplete (claim : SourceResearchClaim) (outcome : SourceResearchOutcome)
  | settle (claim : SourceResearchClaim) (outcome : SourceResearchOutcome)
    (lockedAt timestamp : Instant)
  | rollback (claim : SourceResearchClaim) (outcome : SourceResearchOutcome)
  | purge (ownerUserId : String)

inductive ResearchReply
  | done
  | claimed (claim : Option SourceResearchClaim)
  | renewed (status : RenewStatus)
  | saved (status : SaveStatus)
  | completed (status : CompleteStatus)
  | failed (error : ResearchError)
  deriving DecidableEq

section Step
variable (env : ResearchEnvironment)

/-- Calls on behalf of a claim are calls on behalf of one that was given out. -/
def researchStep (world : ResearchWorld) :
    ResearchLabel → Option (ResearchReply × ResearchWorld)
  | .createBatch command now =>
    match createBatch env command now world.db with
    | .error error => some (.failed error, world)
    | .ok db => some (.done, { world with db })
  | .resumeSource scope now => some (.done, { world with db := resumeSource scope now world.db })
  | .claimNext workerId leaseDurationMs now locked =>
    match claimNext workerId leaseDurationMs now locked world.db with
    | .error error => some (.failed error, world)
    | .ok (none, db) => some (.claimed none, { world with db })
    | .ok (some claim, db) =>
      some (.claimed (some claim), { world with db, claims := world.claims ++ [claim] })
  | .renewLease claim leaseDurationMs now =>
    if claim ∉ world.claims then none
    else
      match renewLease claim leaseDurationMs now world.db with
      | .error error => some (.failed error, world)
      | .ok (status, db) => some (.renewed status, { world with db })
  | .saveCheckpoint claim checkpoint now =>
    if claim ∉ world.claims then none
    else
      let (status, db) := saveCheckpoint claim checkpoint now world.db
      some (.saved status, { world with db })
  | .beginComplete claim outcome =>
    if claim ∉ world.claims then none
    else if alreadyCommitted claim outcome world.db then
      some (.completed .alreadyCommitted, world)
    else some (.done, { world with completing := world.completing ++ [(claim, outcome)] })
  | .settle claim outcome lockedAt timestamp =>
    if (claim, outcome) ∉ world.completing then none
    else
      let completing := world.completing.erase (claim, outcome)
      match settleJob claim outcome lockedAt timestamp world.db with
      | .error error => some (.failed error, { world with completing })
      | .ok (status, db) => some (.completed status, { world with db, completing })
  | .rollback claim outcome =>
    if (claim, outcome) ∉ world.completing then none
    else some (.done, { world with completing := world.completing.erase (claim, outcome) })
  | .purge ownerUserId =>
    some (.done, { world with db := purgePrivateDataForOwner ownerUserId world.db })

end Step

/-! ### What a step does to one job -/

/-- The result rows of a job. -/
def ResearchStore.resultsOf (db : ResearchStore) (jobId : String) : List ResearchResult :=
  db.results.select fun result => result.jobId = jobId

/-- The claim that a step gives out. -/
def ResearchReply.given : ResearchReply → List SourceResearchClaim
  | .claimed claim => claim.toList
  | _ => []

/-- A step gives out a claim of the job. -/
def ResearchReply.claims (jobId : String) : ResearchReply → Bool
  | .claimed (some claim) => claim.jobId = jobId
  | _ => false

theorem ResearchReply.countP_given (jobId : String) (reply : ResearchReply) :
    (reply.given.countP fun claim => claim.jobId = jobId) =
      if reply.claims jobId then 1 else 0 := by
  cases reply with
  | claimed claim =>
    cases claim with
    | none => rfl
    | some claim => exact List.countP_singleton
  | _ => rfl

/-- The outcomes that end a job with costs. -/
def SourceResearchOutcome.isResult : SourceResearchOutcome → Bool
  | .evidence .. | .noResult .. => true
  | _ => false

/-- The result of the job that a step commits. -/
def settlement (jobId : String) (label : ResearchLabel) (reply : ResearchReply) :
    Option SourceResearchOutcome :=
  match reply, label with
  | .completed .committed, .settle claim outcome _ _ =>
    if claim.jobId = jobId && outcome.isResult then some outcome else none
  | _, _ => none

/-- A step neither gives out a claim of the job nor settles it. -/
structure Quiet (jobId : String) (label : ResearchLabel) (reply : ResearchReply) : Prop where
  claims_eq : reply.claims jobId = false
  settlement_eq : settlement jobId label reply = none

/-- The row of a job and its results, before and after a step. -/
inductive JobStep (env : ResearchEnvironment) (s t : ResearchStore) (jobId : String)
    (label : ResearchLabel) (reply : ResearchReply) : Prop
  | same (hrow : t.jobs.find? jobId = s.jobs.find? jobId)
    (hresults : t.resultsOf jobId = s.resultsOf jobId) (hquiet : Quiet jobId label reply)
  | created (job : Job) (hbefore : s.jobs.find? jobId = none)
    (hafter : t.jobs.find? jobId = some job) (hresults : t.resultsOf jobId = s.resultsOf jobId)
    (hbatch : (t.batches.find? job.batchId).isSome = true) (hqueued : job.state = .queued)
    (hattempts : job.attemptCount = 0) (hcost : job.costUnits = 0)
    (hdrawn : ∃ index, s.uuidsDrawn ≤ index ∧ index < t.uuidsDrawn ∧
      jobId = env.randomUUID index) (hquiet : Quiet jobId label reply)
  | purged (hafter : t.jobs.find? jobId = none) (hresults : t.resultsOf jobId = [])
    (hquiet : Quiet jobId label reply)
  | resumed (job : Job) (scope : SourceScope) (now : Instant)
    (hbefore : s.jobs.find? jobId = some job) (hafter : t.jobs.find? jobId = some (job.resumed now))
    (hresults : t.resultsOf jobId = s.resultsOf jobId) (hlabel : label = .resumeSource scope now)
    (hwaits : job.waitsFor scope = true) (hquiet : Quiet jobId label reply)
  | exhausted (job : Job) (now : Instant) (hbefore : s.jobs.find? jobId = some job)
    (hafter : t.jobs.find? jobId = some (job.exhausted now))
    (hresults : t.resultsOf jobId = s.resultsOf jobId) (hexhausted : job.isExhausted now = true)
    (hquiet : Quiet jobId label reply)
  | claimed (job : Job) (workerId : String) (leaseDurationMs : Int) (now : Instant)
    (hbefore : s.jobs.find? jobId = some job)
    (hafter : t.jobs.find? jobId = some (job.claimed workerId leaseDurationMs now))
    (hresults : t.resultsOf jobId = s.resultsOf jobId) (hclaimable : job.isClaimable now = true)
    (hreply : reply = .claimed (some (job.claim workerId)))
  | renewed (job : Job) (leaseDurationMs : Int) (now : Instant)
    (hbefore : s.jobs.find? jobId = some job)
    (hafter : t.jobs.find? jobId = some (job.renewed leaseDurationMs now))
    (hresults : t.resultsOf jobId = s.resultsOf jobId) (hrunning : job.state = .running)
    (hquiet : Quiet jobId label reply)
  | checkpointed (job : Job) (checkpoint : String) (now : Instant)
    (hbefore : s.jobs.find? jobId = some job)
    (hafter : t.jobs.find? jobId = some (job.checkpointed checkpoint now))
    (hresults : t.resultsOf jobId = s.resultsOf jobId) (hrunning : job.state = .running)
    (hquiet : Quiet jobId label reply)
  | settled (job : Job) (claim : SourceResearchClaim) (outcome : SourceResearchOutcome)
    (lockedAt timestamp : Instant) (hlabel : label = .settle claim outcome lockedAt timestamp)
    (hreply : reply = .completed .committed) (hbefore : s.jobs.find? jobId = some job)
    (hheld : job.heldBy claim lockedAt = true)
    (hafter : t.jobs.find? jobId = some (job.settled outcome timestamp))
    (hresults : (t.resultsOf jobId).length = (s.resultsOf jobId).length +
      if (job.settled outcome timestamp).state = .completed then 1 else 0)

/-- The ids of jobs and claims were drawn, and jobs, claims and results belong together. -/
structure Linked (env : ResearchEnvironment) (world : ResearchWorld) : Prop where
  jobs_drawn : ∀ job ∈ world.db.jobs, ∃ index < world.db.uuidsDrawn,
    job.jobId = env.randomUUID index
  jobs_batch : ∀ job ∈ world.db.jobs, (world.db.batches.find? job.batchId).isSome = true
  claims_drawn : ∀ claim ∈ world.claims, ∃ index < world.db.uuidsDrawn,
    claim.jobId = env.randomUUID index
  claims_batch : ∀ claim ∈ world.claims, ∀ job, world.db.jobs.find? claim.jobId = some job →
    claim.batchId = job.batchId
  completing_claims : ∀ call ∈ world.completing, call.1 ∈ world.claims
  results_job : ∀ result ∈ world.db.results, ∃ job,
    world.db.jobs.find? result.jobId = some job ∧ job.batchId = result.batchId

section Steps
variable {env : ResearchEnvironment} {db db' : ResearchStore} {jobId : String}

/-- The jobs that a batch adds. -/
structure Added (env : ResearchEnvironment) (batchId : String) (db db' : ResearchStore) :
    Prop where
  drawn : db.uuidsDrawn ≤ db'.uuidsDrawn
  results : db'.results = db.results
  batches : db'.batches = db.batches
  jobs : ∀ jobId, db'.jobs.find? jobId = db.jobs.find? jobId ∨
    ∃ job, db.jobs.find? jobId = none ∧ db'.jobs.find? jobId = some job ∧
      job.batchId = batchId ∧ job.state = .queued ∧ job.attemptCount = 0 ∧ job.costUnits = 0 ∧
      ∃ index, db.uuidsDrawn ≤ index ∧ index < db'.uuidsDrawn ∧ jobId = env.randomUUID index

theorem Added.refl (env : ResearchEnvironment) (batchId : String) (db : ResearchStore) :
    Added env batchId db db := ⟨Nat.le_refl _, rfl, rfl, fun _ => .inl rfl⟩

theorem Added.trans {batchId : String} {db'' : ResearchStore} (h : Added env batchId db db')
    (h' : Added env batchId db' db'') : Added env batchId db db'' where
  drawn := h.drawn.trans h'.drawn
  results := h'.results.trans h.results
  batches := h'.batches.trans h.batches
  jobs := by
    intro jobId
    have hdrawn := h.drawn
    have hdrawn' := h'.drawn
    rcases h'.jobs jobId with hsame | ⟨job, hnone, hsome, hb, hq, ha, hc, index, hlow, hhigh, hid⟩
    · rw [hsame]
      rcases h.jobs jobId with hold | ⟨job, hnone, hsome, hb, hq, ha, hc, index, hlow, hhigh, hid⟩
      · exact .inl hold
      · exact .inr ⟨job, hnone, hsome, hb, hq, ha, hc, index, hlow, by omega, hid⟩
    · rcases h.jobs jobId with hold | ⟨old, -, hfound, -⟩
      · rw [hold] at hnone
        exact .inr ⟨job, hnone, hsome, hb, hq, ha, hc, index, by omega, hhigh, hid⟩
      · rw [hnone] at hfound
        cases hfound

theorem insertJob_added {command : CreateBatchCommand} {now : Instant} {source : SourceRef}
    (h : insertJob env command now db source = .ok db') : Added env command.batchId db db' := by
  unfold insertJob at h
  dsimp only at h
  split at h
  · cases h
  · split at h
    · cases h
    · rename_i jobs hinsert
      cases h
      refine ⟨Nat.le_succ _, rfl, rfl, fun jobId => ?_⟩
      dsimp only
      rw [Table.find?_insert? hinsert]
      by_cases hid : jobId = env.randomUUID db.uuidsDrawn
      · rw [if_pos hid]
        refine .inr ⟨_, ?_, rfl, rfl, rfl, rfl, rfl, db.uuidsDrawn, Nat.le_refl _,
          Nat.lt_succ_self _, hid⟩
        rw [hid]
        exact Table.find?_eq_none.mpr (Table.key_fresh_of_insert? hinsert)
      · rw [if_neg hid]
        exact .inl rfl

theorem insertJobs_added {command : CreateBatchCommand} {now : Instant}
    {sources : List SourceRef} (h : sources.foldlM (insertJob env command now) db = .ok db') :
    Added env command.batchId db db' := by
  induction sources generalizing db with
  | nil =>
    cases h
    exact .refl env _ _
  | cons source sources ih =>
    rw [List.foldlM_cons] at h
    cases hinsert : insertJob env command now db source with
    | error error =>
      rw [hinsert] at h
      cases h
    | ok db₁ =>
      rw [hinsert] at h
      exact (insertJob_added hinsert).trans (ih h)

theorem createBatch_added {command : CreateBatchCommand} {now : Instant}
    (h : createBatch env command now db = .ok db') :
    db' = db ∨ ∃ batch batches, db.batches.insert? batch = some batches ∧
      batch.batchId = command.batchId ∧ Added env command.batchId { db with batches } db' := by
  unfold createBatch at h
  split at h
  · cases h
  · dsimp only at h
    split at h
    · split at h
      · cases h
      · cases h
        exact .inl rfl
    · split at h
      · cases h
      · rename_i batches hinsert
        exact .inr ⟨_, batches, hinsert, rfl, insertJobs_added h⟩

/-! Rows that a statement names -/

theorem held_eq_some {claim : SourceResearchClaim} {now : Instant} {job : Job} :
    db.held claim now = some job ↔
      db.jobs.find? claim.jobId = some job ∧ job.heldBy claim now = true := by
  unfold ResearchStore.held
  rw [Option.filter_eq_some_iff]

theorem heldBy_running {claim : SourceResearchClaim} {now : Instant} {job : Job}
    (h : job.heldBy claim now = true) : job.state = .running := by
  unfold Job.heldBy at h
  simp only [Bool.and_eq_true, decide_eq_true_eq] at h
  exact h.1.2

theorem held_key {claim : SourceResearchClaim} {now : Instant} {job : Job}
    (h : db.held claim now = some job) : job.jobId = claim.jobId :=
  (Table.find?_eq_some.mp (held_eq_some.mp h).1).2

/-- The rows of a claim: the claimable job, and the exhausted ones. -/
theorem nextJob_eq_some {now : Instant} {locked : String → Bool} {job : Job}
    (h : nextJob now locked db = some job) : job ∈ db.jobs ∧ job.isClaimable now = true := by
  have hmem := List.mem_of_head? h
  rw [List.mem_insertionSort, Table.mem_select, Bool.and_eq_true] at hmem
  exact ⟨hmem.1, hmem.2.1⟩

theorem not_claimable_exhausted {now now' : Instant} {job : Job} :
    (job.exhausted now).isClaimable now' = false := by
  unfold Job.isClaimable Job.exhausted
  simp

theorem find?_expire {now : Instant} : (db.expire now).jobs.find? jobId =
    (db.jobs.find? jobId).map fun job =>
      if job.isExhausted now then job.exhausted now else job := by
  unfold ResearchStore.expire
  rw [Table.find?_updateWhere]

theorem mem_expire {now : Instant} {job : Job} : job ∈ (db.expire now).jobs ↔
    ∃ old ∈ db.jobs, (if old.isExhausted now then old.exhausted now else old) = job := by
  unfold ResearchStore.expire
  dsimp only
  rw [Table.mem_updateWhere]

theorem claimNext_ok {workerId : String} {leaseDurationMs : Int} {now : Instant}
    {locked : String → Bool} {claim : Option SourceResearchClaim}
    (h : claimNext workerId leaseDurationMs now locked db = .ok (claim, db')) :
    (claim = none ∧ db' = db.expire now) ∨ ∃ job, db.jobs.find? job.jobId = some job ∧
      job.isExhausted now = false ∧ job.isClaimable now = true ∧ claim = some (job.claim workerId) ∧
      db' = { db.expire now with
        jobs := (db.expire now).jobs.update job.jobId (Job.claimed workerId leaseDurationMs now)
          (Job.claimed_key workerId leaseDurationMs now) } := by
  unfold claimNext at h
  split at h
  · cases h
  · dsimp only at h
    split at h
    · cases h
      exact .inl ⟨rfl, rfl⟩
    · rename_i job hnext
      cases h
      obtain ⟨hjob, hclaimable⟩ := nextJob_eq_some hnext
      obtain ⟨old, hold, hrow⟩ := mem_expire.mp hjob
      split at hrow
      · rw [← hrow, not_claimable_exhausted] at hclaimable
        cases hclaimable
      · rename_i hlive
        subst hrow
        exact .inr ⟨old, Table.find?_of_mem hold, by simpa using hlive, hclaimable, rfl, rfl⟩

end Steps

/-! ### Every step -/

section Jobs
variable {env : ResearchEnvironment} {world world' : ResearchWorld} {label : ResearchLabel}
  {reply : ResearchReply}

theorem JobStep.of_same {s t : ResearchStore} {jobId : String} (hjobs : t.jobs = s.jobs)
    (hresults : t.results = s.results) (hquiet : Quiet jobId label reply) :
    JobStep env s t jobId label reply := by
  refine .same (by rw [hjobs]) ?_ hquiet
  unfold ResearchStore.resultsOf
  rw [hresults]

theorem claimNext_job {workerId : String} {leaseDurationMs : Int} {now : Instant}
    {locked : String → Bool} {claim : Option SourceResearchClaim} {db db' : ResearchStore}
    {jobId : String} (h : claimNext workerId leaseDurationMs now locked db = .ok (claim, db')) :
    JobStep env db db' jobId label (.claimed claim) := by
  -- the row where the step gives out no claim of it
  have hrest : ∀ {db' : ResearchStore}, db'.jobs.find? jobId = (db.expire now).jobs.find? jobId →
      db'.results = db.results → Quiet jobId label (.claimed claim) →
      JobStep env db db' jobId label (.claimed claim) := by
    intro db' hrow hresults hquiet
    have hresults' : db'.resultsOf jobId = db.resultsOf jobId := by
      unfold ResearchStore.resultsOf
      rw [hresults]
    rw [find?_expire] at hrow
    cases hjob : db.jobs.find? jobId with
    | none =>
      rw [hjob] at hrow
      exact .same (hrow.trans hjob.symm) hresults' hquiet
    | some job =>
      rw [hjob, Option.map_some] at hrow
      split at hrow
      · rename_i hexhausted
        exact .exhausted job now hjob hrow hresults' hexhausted hquiet
      · exact .same (hrow.trans hjob.symm) hresults' hquiet
  rcases claimNext_ok h with ⟨rfl, rfl⟩ | ⟨job, hfound, hlive, hclaimable, rfl, rfl⟩
  · exact hrest rfl rfl ⟨rfl, rfl⟩
  · by_cases hid : jobId = job.jobId
    · subst hid
      refine .claimed job workerId leaseDurationMs now hfound ?_ rfl hclaimable rfl
      dsimp only
      rw [Table.find?_update_self, find?_expire, hfound, Option.map_some, hlive]
      rfl
    · refine hrest ?_ rfl ⟨decide_eq_false fun hsame => hid hsame.symm, rfl⟩
      dsimp only
      rw [Table.find?_update, if_neg hid]

/-- A change of the row that a claim holds. -/
theorem JobStep.of_held {db : ResearchStore} {jobId : String} {claim : SourceResearchClaim}
    {now : Instant} {job : Job} {f : Job → Job} {hf : ∀ job, (f job).jobId = job.jobId}
    (hheld : db.held claim now = some job) (hquiet : Quiet jobId label reply)
    (hchanged : db.jobs.find? jobId = some job →
      ({ db with jobs := db.jobs.update job.jobId f hf } : ResearchStore).jobs.find? jobId =
        some (f job) →
      JobStep env db { db with jobs := db.jobs.update job.jobId f hf } jobId label reply) :
    JobStep env db { db with jobs := db.jobs.update job.jobId f hf } jobId label reply := by
  by_cases hid : jobId = job.jobId
  · have hfound : db.jobs.find? jobId = some job := by
      rw [hid, held_key hheld]
      exact (held_eq_some.mp hheld).1
    refine hchanged hfound ?_
    dsimp only
    rw [Table.find?_update, if_pos hid, hfound, Option.map_some]
  · refine .same ?_ rfl hquiet
    dsimp only
    rw [Table.find?_update, if_neg hid]

theorem settled_completed {outcome : SourceResearchOutcome} {timestamp : Instant} {job : Job} :
    (job.settled outcome timestamp).state = .completed ↔
      ∃ resultKey evidenceId summary costUnits,
        outcome = .evidence resultKey evidenceId summary costUnits := by
  cases outcome with
  | evidence resultKey evidenceId summary costUnits =>
    exact iff_of_true rfl ⟨resultKey, evidenceId, summary, costUnits, rfl⟩
  | failedRetryable summary =>
    unfold Job.settled
    dsimp only
    split <;> simp [Job.finished]
  | _ => simp [Job.settled, Job.finished]

theorem settled_batchId (outcome : SourceResearchOutcome) (timestamp : Instant) (job : Job) :
    (job.settled outcome timestamp).batchId = job.batchId := by
  cases outcome with
  | failedRetryable =>
    unfold Job.settled
    dsimp only
    split <;> rfl
  | _ => rfl

/-- The results of a job after the record of an outcome. -/
theorem recordResult_length {db : ResearchStore} {claim : SourceResearchClaim}
    {outcome : SourceResearchOutcome} {timestamp : Instant} {results : Table ResearchResult.key}
    (h : recordResult claim outcome timestamp db = some results) (jobId : String) (job : Job) :
    (results.select fun result => result.jobId = jobId).length = (db.resultsOf jobId).length +
      if jobId = claim.jobId ∧ (job.settled outcome timestamp).state = .completed then 1
      else 0 := by
  unfold ResearchStore.resultsOf
  cases houtcome : outcome with
  | evidence resultKey evidenceId summary costUnits =>
    rw [houtcome] at h
    unfold recordResult at h
    dsimp only at h
    split at h
    · cases h
    · have hstate : (job.settled (.evidence resultKey evidenceId summary costUnits)
          timestamp).state = .completed := rfl
      by_cases hid : jobId = claim.jobId
      · rw [if_pos ⟨hid, hstate⟩, Table.select_insert?_append h (decide_eq_true hid.symm),
          List.length_append]
        rfl
      · rw [if_neg fun hboth => hid hboth.1,
          Table.select_insert? h (decide_eq_false fun hsame => hid hsame.symm), Nat.add_zero]
  | _ =>
    rw [houtcome] at h
    cases h
    rw [if_neg, Nat.add_zero]
    rintro ⟨-, hstate⟩
    obtain ⟨resultKey, evidenceId, summary, costUnits, hevidence⟩ := settled_completed.mp hstate
    cases hevidence

/-- The record of an outcome leaves the results of the other jobs alone. -/
theorem recordResult_other {db : ResearchStore} {claim : SourceResearchClaim}
    {outcome : SourceResearchOutcome} {timestamp : Instant} {results : Table ResearchResult.key}
    (h : recordResult claim outcome timestamp db = some results) {jobId : String}
    (hid : jobId ≠ claim.jobId) :
    (results.select fun result => result.jobId = jobId) = db.resultsOf jobId := by
  unfold recordResult at h
  split at h
  · split at h
    · cases h
    · exact Table.select_insert? h (decide_eq_false fun hsame => hid hsame.symm)
  · cases h
    rfl

theorem settleJob_job {claim : SourceResearchClaim} {outcome : SourceResearchOutcome}
    {lockedAt timestamp : Instant} {status : CompleteStatus} {db db' : ResearchStore}
    {jobId : String} (h : settleJob claim outcome lockedAt timestamp db = .ok (status, db')) :
    JobStep env db db' jobId (.settle claim outcome lockedAt timestamp) (.completed status) := by
  unfold settleJob at h
  split at h
  · cases h
    exact .of_same rfl rfl ⟨rfl, rfl⟩
  · rename_i job hheld
    split at h
    · cases h
    · split at h
      · cases h
      · rename_i results hrecord
        cases h
        have hkey := held_key hheld
        have hlength := recordResult_length hrecord jobId job
        by_cases hid : jobId = job.jobId
        · have hfound : db.jobs.find? jobId = some job := by
            rw [hid, hkey]
            exact (held_eq_some.mp hheld).1
          refine .settled job claim outcome lockedAt timestamp rfl rfl hfound
            (held_eq_some.mp hheld).2 ?_ ?_
          · dsimp only
            rw [Table.find?_update, if_pos hid, hfound, Option.map_some]
          · rw [if_congr (and_iff_right (hid.trans hkey)) rfl rfl] at hlength
            exact hlength
        · refine .same ?_ (recordResult_other hrecord fun hsame => hid (hsame.trans hkey.symm))
            ⟨rfl, ?_⟩
          · dsimp only
            rw [Table.find?_update, if_neg hid]
          · unfold settlement
            dsimp only
            rw [decide_eq_false fun hsame => hid (hsame.symm.trans hkey.symm), Bool.false_and]
            rfl

theorem purge_job {ownerUserId : String} {jobId : String} (hlinked : Linked env world) :
    JobStep env world.db (purgePrivateDataForOwner ownerUserId world.db) jobId
      (.purge ownerUserId) .done := by
  unfold purgePrivateDataForOwner
  cases hjob : world.db.jobs.find? jobId with
  | none =>
    -- no job, hence no result of it
    have hnone : ∀ result ∈ world.db.results, result.jobId ≠ jobId := by
      intro result hresult hsame
      obtain ⟨job, hfound, -⟩ := hlinked.results_job result hresult
      rw [hsame, hjob] at hfound
      cases hfound
    refine .same ?_ (Table.select_deleteWhere fun result hresult hsame => ?_) ⟨rfl, rfl⟩
    · dsimp only
      rw [Table.find?_deleteWhere, hjob]
      rfl
    · exact absurd (of_decide_eq_true hsame) (hnone result hresult)
  | some job =>
    have hbatch : ∀ result ∈ world.db.results, result.jobId = jobId →
        result.batchId = job.batchId := by
      intro result hresult hsame
      obtain ⟨owner, hfound, hbatch⟩ := hlinked.results_job result hresult
      rw [hsame, hjob] at hfound
      cases hfound
      exact hbatch.symm
    cases hpurged : world.db.ownsBatch ownerUserId job.batchId with
    | true =>
      refine .purged ?_ (List.filter_eq_nil_iff.mpr fun result hresult => ?_) ⟨rfl, rfl⟩
      · dsimp only
        rw [Table.find?_deleteWhere, hjob, Option.filter_some, hpurged]
        rfl
      · obtain ⟨hold, hkept⟩ := Table.mem_deleteWhere.mp hresult
        rw [decide_eq_true_eq]
        intro hsame
        rw [hbatch result hold hsame, hpurged] at hkept
        cases hkept
    | false =>
      refine .same ?_ (Table.select_deleteWhere fun result hresult hsame => ?_) ⟨rfl, rfl⟩
      · dsimp only
        rw [Table.find?_deleteWhere, hjob, Option.filter_some, hpurged]
        rfl
      · rw [hbatch result hresult (of_decide_eq_true hsame), hpurged]

/-- A step changes every job in one of these ways. -/
theorem researchStep_job (hlinked : Linked env world)
    (h : researchStep env world label = some (reply, world')) (jobId : String) :
    JobStep env world.db world'.db jobId label reply := by
  unfold researchStep at h
  cases label with
  | createBatch command now =>
    dsimp only at h
    split at h
    · cases h
      exact .of_same rfl rfl ⟨rfl, rfl⟩
    · rename_i db hcreate
      cases h
      rcases createBatch_added hcreate with rfl | ⟨batch, batches, hinsert, hkey, hadded⟩
      · exact .of_same rfl rfl ⟨rfl, rfl⟩
      · have hresults : db.resultsOf jobId = world.db.resultsOf jobId := by
          unfold ResearchStore.resultsOf
          rw [hadded.results]
        rcases hadded.jobs jobId with hsame | ⟨job, hnone, hsome, hb, hq, ha, hc, hdrawn⟩
        · exact .same hsame hresults ⟨rfl, rfl⟩
        · refine .created job hnone hsome hresults ?_ hq ha hc hdrawn ⟨rfl, rfl⟩
          dsimp only
          rw [hadded.batches, hb, ← hkey, Table.find?_insert? hinsert, if_pos rfl]
          rfl
  | resumeSource scope now =>
    cases h
    dsimp only [resumeSource]
    cases hjob : world.db.jobs.find? jobId with
    | none =>
      refine .same ?_ rfl ⟨rfl, rfl⟩
      rw [Table.find?_updateWhere, hjob]
      rfl
    | some job =>
      by_cases hwaits : job.waitsFor scope = true
      · refine .resumed job scope now hjob ?_ rfl rfl hwaits ⟨rfl, rfl⟩
        rw [Table.find?_updateWhere, hjob, Option.map_some, if_pos hwaits]
      · refine .same ?_ rfl ⟨rfl, rfl⟩
        rw [Table.find?_updateWhere, hjob, Option.map_some, if_neg hwaits]
  | claimNext workerId leaseDurationMs now locked =>
    dsimp only at h
    split at h
    · cases h
      exact .of_same rfl rfl ⟨rfl, rfl⟩
    · rename_i hclaim
      cases h
      exact claimNext_job hclaim
    · rename_i hclaim
      cases h
      exact claimNext_job hclaim
  | renewLease claim leaseDurationMs now =>
    dsimp only at h
    split at h
    · cases h
    · unfold renewLease at h
      split at h
      · rename_i hinvalid
        split at hinvalid
        · cases h
          exact .of_same rfl rfl ⟨rfl, rfl⟩
        · split at hinvalid <;> cases hinvalid
      · rename_i status db hrenew
        cases h
        split at hrenew
        · cases hrenew
        · split at hrenew
          · cases hrenew
            exact .of_same rfl rfl ⟨rfl, rfl⟩
          · rename_i job hheld
            cases hrenew
            exact .of_held hheld ⟨rfl, rfl⟩ fun hbefore hafter =>
              .renewed job leaseDurationMs now hbefore hafter rfl
                (heldBy_running (held_eq_some.mp hheld).2) ⟨rfl, rfl⟩
  | saveCheckpoint claim checkpoint now =>
    dsimp only at h
    split at h
    · cases h
    · unfold saveCheckpoint at h
      cases hheld : world.db.held claim now with
      | none =>
        rw [hheld] at h
        cases h
        exact .of_same rfl rfl ⟨rfl, rfl⟩
      | some job =>
        rw [hheld] at h
        cases h
        exact .of_held hheld ⟨rfl, rfl⟩ fun hbefore hafter =>
          .checkpointed job checkpoint now hbefore hafter rfl
            (heldBy_running (held_eq_some.mp hheld).2) ⟨rfl, rfl⟩
  | beginComplete claim outcome =>
    dsimp only at h
    split at h
    · cases h
    · split at h
      · cases h
        exact .of_same rfl rfl ⟨rfl, rfl⟩
      · cases h
        exact .of_same rfl rfl ⟨rfl, rfl⟩
  | settle claim outcome lockedAt timestamp =>
    dsimp only at h
    split at h
    · cases h
    · split at h
      · cases h
        exact .of_same rfl rfl ⟨rfl, rfl⟩
      · rename_i status db hsettle
        cases h
        exact settleJob_job hsettle
  | rollback claim outcome =>
    dsimp only at h
    split at h
    · cases h
    · cases h
      exact .of_same rfl rfl ⟨rfl, rfl⟩
  | purge ownerUserId =>
    cases h
    exact purge_job hlinked

end Jobs

/-! ### A small platform -/

/-- Digests and request texts are short. -/
def sampleResearch : ResearchEnvironment where
  randomUUID n := .ofList (List.replicate (n + 1) '0')
  randomUUID_injective := by
    intro m n h
    have hlength := congrArg List.length (String.ofList_injective h)
    rw [List.length_replicate, List.length_replicate] at hlength
    omega
  sha256 text := text
  stringify decisionTaskId query _ := decisionTaskId ++ query
  localeLe _ _ := true

/-- A batch with one source. -/
def sampleBatch : CreateBatchCommand :=
  ⟨"batch", "owner", "task", "key", "query", [⟨"source", "account"⟩]⟩

def sampleJobId : String := sampleResearch.randomUUID 0

/-- The claim number `attempt` of the sample job. -/
def sampleClaim (workerId : String) (attempt : Nat) : SourceResearchClaim :=
  ⟨sampleJobId, "batch", ⟨"owner", "source", "account"⟩, "task", "query", none, workerId, attempt⟩

/-- A claim of one millisecond. -/
def sampleClaimNext (workerId : String) (now : Instant) : ResearchLabel :=
  .claimNext workerId 1 now fun _ => false

end ChoiceMind.SourceResearch
