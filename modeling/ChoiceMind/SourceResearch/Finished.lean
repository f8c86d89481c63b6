import ChoiceMind.SourceResearch.Idempotency
import ChoiceMind.SourceResearch.Reads

/-!
# Finished batches

A batch that a read shows as completed or failed has only jobs that have ended. No statement
matches them, and no further job joins the batch, so that the batch stays as it is until its
owner is purged.
-/

namespace ChoiceMind.SourceResearch

set_option autoImplicit false

open Contracts SourceAccess Transition

variable {env : ResearchEnvironment} {db db' : ResearchStore} {batchId ownerUserId : String}

/-- The states of a batch after which its view does not change. -/
def BatchState.isFinished : BatchState → Bool
  | .completed | .failed => true
  | _ => false

/-! ### What a finished batch is -/

/-- The owner has the batch, and all of its jobs have ended. -/
structure BatchEnded (batchId ownerUserId : String) (db : ResearchStore) : Prop where
  batch : ∃ batch, db.queryBatch batchId ownerUserId = some batch
  jobs : ∀ job ∈ db.jobs, job.batchId = batchId → job.state.isTerminal = true

theorem isTerminal_of_batchState {states : List JobState}
    (h : (batchState states).isFinished = true) : ∀ state ∈ states, state.isTerminal = true := by
  intro state hstate
  unfold batchState at h
  split at h
  · cases h
  · split at h
    · rename_i hfailed
      rw [Bool.and_eq_true, List.all_eq_true] at hfailed
      exact hfailed.1 state hstate
    · split at h
      · rename_i hcompleted
        rw [List.all_eq_true] at hcompleted
        have hdone := hcompleted state hstate
        rw [Bool.or_eq_true, decide_eq_true_eq, decide_eq_true_eq] at hdone
        rcases hdone with rfl | rfl <;> rfl
      · split at h <;> cases h

theorem batchEnded_of_view {view : BatchView} (hview : db.view batchId ownerUserId = some view)
    (hfinished : view.state.isFinished = true) : BatchEnded batchId ownerUserId db := by
  unfold ResearchStore.view at hview
  rw [Option.map_eq_some_iff] at hview
  obtain ⟨batch, hbatch, rfl⟩ := hview
  refine ⟨⟨batch, hbatch⟩, fun job hjob hsame => ?_⟩
  apply isTerminal_of_batchState hfinished
  exact List.mem_map_of_mem (mem_queryJobs.mpr ⟨hjob, hsame⟩)

theorem queryBatch_eq_some {batch : Batch} : db.queryBatch batchId ownerUserId = some batch ↔
    db.batches.find? batchId = some batch ∧ batch.ownerUserId = ownerUserId := by
  unfold ResearchStore.queryBatch
  rw [Option.filter_eq_some_iff, decide_eq_true_eq]

/-! ### Tables that agree on a batch -/

/-- Both tables have the same rows of the batch, in the same order. -/
structure SameBatch (batchId : String) (db db' : ResearchStore) : Prop where
  batch : db'.batches.find? batchId = db.batches.find? batchId
  jobs : (db'.jobs.select fun job => job.batchId = batchId) =
    db.jobs.select fun job => job.batchId = batchId
  results : (db'.results.select fun result => result.batchId = batchId) =
    db.results.select fun result => result.batchId = batchId

namespace SameBatch

theorem refl (batchId : String) (db : ResearchStore) : SameBatch batchId db db := ⟨rfl, rfl, rfl⟩

theorem trans {db'' : ResearchStore} (h : SameBatch batchId db db')
    (h' : SameBatch batchId db' db'') : SameBatch batchId db db'' :=
  ⟨h'.batch.trans h.batch, h'.jobs.trans h.jobs, h'.results.trans h.results⟩

/-- A change of job rows that the batch does not have. -/
theorem of_jobs {jobs : Table Job.jobId}
    (h : (jobs.select fun job => job.batchId = batchId) =
      db.jobs.select fun job => job.batchId = batchId) :
    SameBatch batchId db { db with jobs } := ⟨rfl, h, rfl⟩

theorem queryBatch_eq (h : SameBatch batchId db db') :
    db'.queryBatch batchId ownerUserId = db.queryBatch batchId ownerUserId := by
  unfold ResearchStore.queryBatch
  rw [h.batch]

theorem queryJobs_eq (h : SameBatch batchId db db') :
    db'.queryJobs batchId = db.queryJobs batchId := by
  unfold ResearchStore.queryJobs
  rw [h.jobs]

theorem queryResults_eq (h : SameBatch batchId db db') :
    db'.queryResults batchId = db.queryResults batchId := by
  unfold ResearchStore.queryResults
  rw [h.results]

theorem view_eq (h : SameBatch batchId db db') :
    db'.view batchId ownerUserId = db.view batchId ownerUserId := by
  unfold ResearchStore.view
  rw [h.queryBatch_eq, h.queryJobs_eq, h.queryResults_eq]

theorem ended (h : SameBatch batchId db db') (hended : BatchEnded batchId ownerUserId db) :
    BatchEnded batchId ownerUserId db' where
  batch := by
    rw [h.queryBatch_eq]
    exact hended.batch
  jobs := by
    intro job hjob hsame
    have hselected : job ∈ db'.jobs.select fun job => job.batchId = batchId :=
      Table.mem_select.mpr ⟨hjob, decide_eq_true hsame⟩
    rw [h.jobs, Table.mem_select] at hselected
    exact hended.jobs job hselected.1 hsame

end SameBatch

/-! ### Statements -/

theorem insertJob_select {command : CreateBatchCommand} {now : Instant} {source : SourceRef}
    (h : insertJob env command now db source = .ok db') (hother : command.batchId ≠ batchId) :
    SameBatch batchId db db' := by
  unfold insertJob at h
  dsimp only at h
  split at h
  · cases h
  · split at h
    · cases h
    · rename_i jobs hinsert
      cases h
      exact ⟨rfl, Table.select_insert? hinsert (decide_eq_false hother), rfl⟩

theorem insertJobs_select {command : CreateBatchCommand} {now : Instant}
    {sources : List SourceRef} (hother : command.batchId ≠ batchId)
    (h : sources.foldlM (insertJob env command now) db = .ok db') : SameBatch batchId db db' := by
  induction sources generalizing db with
  | nil =>
    cases h
    exact .refl batchId _
  | cons source sources ih =>
    rw [List.foldlM_cons] at h
    cases hinsert : insertJob env command now db source with
    | error error =>
      rw [hinsert] at h
      cases h
    | ok db₁ =>
      rw [hinsert] at h
      exact (insertJob_select hinsert hother).trans (ih h)

/-- A batch that exists gets no further job. -/
theorem createBatch_same {command : CreateBatchCommand} {now : Instant} {batch : Batch}
    (hbatch : db.batches.find? batchId = some batch)
    (h : createBatch env command now db = .ok db') : SameBatch batchId db db' := by
  unfold createBatch at h
  split at h
  · cases h
  · dsimp only at h
    split at h
    · split at h
      · cases h
      · cases h
        exact .refl batchId db
    · split at h
      · cases h
      · rename_i batches hinsert
        obtain ⟨hmem, hkey⟩ := Table.find?_eq_some.mp hbatch
        have hother : command.batchId ≠ batchId := by
          intro hsame
          exact Table.key_fresh_of_insert? hinsert batch hmem (hkey.trans hsame.symm)
        have hinserted : SameBatch batchId db { db with batches } := by
          refine ⟨?_, rfl, rfl⟩
          dsimp only
          rw [Table.find?_insert? hinsert, if_neg fun hsame => hother hsame.symm]
        exact hinserted.trans (insertJobs_select hother h)

section Jobs
variable {now : Instant} {job : Job}

theorem waitsFor_waiting {scope : SourceScope} (h : job.waitsFor scope = true) :
    job.state.isTerminal = false := by
  unfold Job.waitsFor at h
  rw [Bool.and_eq_true, decide_eq_true_eq, decide_eq_true_eq] at h
  rw [h.2]
  rfl

theorem exhausted_running (h : job.isExhausted now = true) : job.state.isTerminal = false := by
  unfold Job.isExhausted at h
  rw [Bool.and_eq_true, Bool.and_eq_true, decide_eq_true_eq] at h
  rw [h.1.1]
  rfl

theorem claimable_open (h : job.isClaimable now = true) : job.state.isTerminal = false := by
  unfold Job.isClaimable at h
  simp only [Bool.or_eq_true, Bool.and_eq_true, decide_eq_true_eq] at h
  rcases h with (hstate | ⟨hstate, -⟩) | ⟨⟨hstate, -⟩, -⟩ <;> rw [hstate] <;> rfl

/-- A statement that only names jobs that have not ended. -/
theorem BatchEnded.select_updateWhere (h : BatchEnded batchId ownerUserId db) (p : Job → Bool)
    (f : Job → Job) (hopen : ∀ job, p job = true → job.state.isTerminal = false)
    (hbatch : ∀ job, (f job).batchId = job.batchId) (hf : ∀ job, (f job).jobId = job.jobId) :
    ((db.jobs.updateWhere p f hf).select fun job => job.batchId = batchId) =
      db.jobs.select fun job => job.batchId = batchId := by
  refine Table.select_updateWhere (fun job hjob hmatch => ?_) hf
  have hother : job.batchId ≠ batchId := by
    intro hsame
    have hterminal := h.jobs job hjob hsame
    rw [hopen job hmatch] at hterminal
    cases hterminal
  exact ⟨decide_eq_false hother, decide_eq_false (hbatch job ▸ hother)⟩

/-- A change of one job that has not ended. -/
theorem BatchEnded.select_update (h : BatchEnded batchId ownerUserId db) (f : Job → Job)
    (hjob : db.jobs.find? job.jobId = some job) (hopen : job.state.isTerminal = false)
    (hbatch : ∀ job, (f job).batchId = job.batchId) (hf : ∀ job, (f job).jobId = job.jobId) :
    ((db.jobs.update job.jobId f hf).select fun job => job.batchId = batchId) =
      db.jobs.select fun job => job.batchId = batchId := by
  obtain ⟨hmem, -⟩ := Table.find?_eq_some.mp hjob
  have hother : job.batchId ≠ batchId := by
    intro hsame
    have hterminal := h.jobs job hmem hsame
    rw [hopen] at hterminal
    cases hterminal
  refine Table.select_updateWhere (fun row hrow hkey => ?_) hf
  cases Table.eq_of_key_eq hrow hmem (of_decide_eq_true hkey)
  exact ⟨decide_eq_false hother, decide_eq_false (hbatch job ▸ hother)⟩

end Jobs

theorem claimNext_same {workerId : String} {leaseDurationMs : Int} {now : Instant}
    {locked : String → Bool} {claim : Option SourceResearchClaim}
    (hended : BatchEnded batchId ownerUserId db)
    (h : claimNext workerId leaseDurationMs now locked db = .ok (claim, db')) :
    SameBatch batchId db db' := by
  have hexpire : SameBatch batchId db (db.expire now) := by
    apply SameBatch.of_jobs
    exact hended.select_updateWhere (Job.isExhausted now) (Job.exhausted now)
      (fun _ => exhausted_running) (fun _ => rfl) (Job.exhausted_key now)
  rcases claimNext_ok h with ⟨-, rfl⟩ | ⟨job, hfound, hlive, hclaimable, -, rfl⟩
  · exact hexpire
  · refine hexpire.trans (.of_jobs ?_)
    refine (hexpire.ended hended).select_update (Job.claimed workerId leaseDurationMs now) ?_
      (claimable_open hclaimable) (fun _ => rfl) (Job.claimed_key workerId leaseDurationMs now)
    rw [find?_expire, hfound, Option.map_some, hlive]
    rfl

/-- A change of the row that a claim holds. -/
theorem BatchEnded.select_held (h : BatchEnded batchId ownerUserId db)
    {claim : SourceResearchClaim} {now : Instant} {job : Job} (f : Job → Job)
    (hheld : db.held claim now = some job) (hbatch : ∀ job, (f job).batchId = job.batchId)
    (hf : ∀ job, (f job).jobId = job.jobId) :
    ((db.jobs.update job.jobId f hf).select fun job => job.batchId = batchId) =
      db.jobs.select fun job => job.batchId = batchId := by
  obtain ⟨hfound, hrow⟩ := held_eq_some.mp hheld
  refine h.select_update f ?_ ?_ hbatch hf
  · rw [held_key hheld]
    exact hfound
  · rw [heldBy_running hrow]
    rfl

theorem recordResult_select {claim : SourceResearchClaim} {outcome : SourceResearchOutcome}
    {timestamp : Instant} {results : Table ResearchResult.key}
    (h : recordResult claim outcome timestamp db = some results)
    (hother : claim.batchId ≠ batchId) :
    (results.select fun result => result.batchId = batchId) =
      db.results.select fun result => result.batchId = batchId := by
  unfold recordResult at h
  split at h
  · split at h
    · cases h
    · exact Table.select_insert? h (decide_eq_false hother)
  · cases h
    rfl

theorem settleJob_same {claim : SourceResearchClaim} {outcome : SourceResearchOutcome}
    {lockedAt timestamp : Instant} {status : CompleteStatus}
    (hended : BatchEnded batchId ownerUserId db)
    (hclaim : ∀ job, db.jobs.find? claim.jobId = some job → claim.batchId = job.batchId)
    (h : settleJob claim outcome lockedAt timestamp db = .ok (status, db')) :
    SameBatch batchId db db' := by
  unfold settleJob at h
  split at h
  · cases h
    exact .refl batchId db
  · rename_i job hheld
    split at h
    · cases h
    · split at h
      · cases h
      · rename_i results hrecord
        cases h
        obtain ⟨hfound, hrow⟩ := held_eq_some.mp hheld
        have hother : claim.batchId ≠ batchId := by
          intro hsame
          have hterminal := hended.jobs job (Table.find?_eq_some.mp hfound).1
            ((hclaim job hfound).symm.trans hsame)
          rw [heldBy_running hrow] at hterminal
          cases hterminal
        refine ⟨?_, ?_, recordResult_select hrecord hother⟩
        · dsimp only
          rw [Table.find?_update, if_neg fun hsame => hother hsame.symm]
        · exact hended.select_held (Job.settled outcome timestamp) hheld
            (settled_batchId outcome timestamp) (Job.settled_key outcome timestamp)

/-- The purge of another owner. -/
theorem purge_same {other : String} (hended : BatchEnded batchId ownerUserId db)
    (hother : other ≠ ownerUserId) :
    SameBatch batchId db (purgePrivateDataForOwner other db) := by
  obtain ⟨batch, hbatch⟩ := hended.batch
  obtain ⟨hfound, howner⟩ := queryBatch_eq_some.mp hbatch
  have hkept : db.ownsBatch other batchId = false := by
    unfold ResearchStore.ownsBatch
    rw [hfound, Option.any_some, howner, decide_eq_false fun hsame => hother hsame.symm]
  unfold purgePrivateDataForOwner
  refine ⟨?_, Table.select_deleteWhere fun job _ hsame => ?_,
    Table.select_deleteWhere fun result _ hsame => ?_⟩
  · dsimp only
    rw [Table.find?_deleteWhere, hfound, Option.filter_some, howner,
      decide_eq_false fun hsame => hother hsame.symm]
    rfl
  · rw [of_decide_eq_true hsame, hkept]
  · rw [of_decide_eq_true hsame, hkept]

/-! ### Steps and runs -/

section Runs
variable {world world' : ResearchWorld} {label : ResearchLabel} {reply : ResearchReply}

theorem sameBatch_step (hlinked : Linked env world)
    (hended : BatchEnded batchId ownerUserId world.db) (hpurge : label ≠ .purge ownerUserId)
    (h : researchStep env world label = some (reply, world')) :
    SameBatch batchId world.db world'.db := by
  unfold researchStep at h
  cases label with
  | createBatch command now =>
    dsimp only at h
    split at h
    · cases h
      exact .refl batchId _
    · rename_i hcreate
      cases h
      obtain ⟨batch, hbatch⟩ := hended.batch
      exact createBatch_same (queryBatch_eq_some.mp hbatch).1 hcreate
  | resumeSource scope now =>
    cases h
    apply SameBatch.of_jobs
    exact hended.select_updateWhere (Job.waitsFor scope) (Job.resumed now)
      (fun _ => waitsFor_waiting) (fun _ => rfl) (Job.resumed_key now)
  | claimNext workerId leaseDurationMs now locked =>
    dsimp only at h
    split at h
    · cases h
      exact .refl batchId _
    · rename_i hclaim
      cases h
      exact claimNext_same hended hclaim
    · rename_i hclaim
      cases h
      exact claimNext_same hended hclaim
  | renewLease claim leaseDurationMs now =>
    dsimp only at h
    split at h
    · cases h
    · unfold renewLease at h
      split at h
      · cases h
        exact .refl batchId _
      · rename_i hrenew
        cases h
        split at hrenew
        · cases hrenew
        · split at hrenew
          · cases hrenew
            exact .refl batchId _
          · rename_i hheld
            cases hrenew
            apply SameBatch.of_jobs
            exact hended.select_held (Job.renewed leaseDurationMs now) hheld (fun _ => rfl)
              (Job.renewed_key leaseDurationMs now)
  | saveCheckpoint claim checkpoint now =>
    dsimp only at h
    split at h
    · cases h
    · unfold saveCheckpoint at h
      cases hheld : world.db.held claim now with
      | none =>
        rw [hheld] at h
        cases h
        exact .refl batchId _
      | some job =>
        rw [hheld] at h
        cases h
        apply SameBatch.of_jobs
        exact hended.select_held (Job.checkpointed checkpoint now) hheld (fun _ => rfl)
          (Job.checkpointed_key checkpoint now)
  | beginComplete claim outcome =>
    dsimp only at h
    split at h
    · cases h
    · split at h <;> cases h <;> exact .refl batchId _
  | settle claim outcome lockedAt timestamp =>
    dsimp only at h
    split at h
    · cases h
    · rename_i hcalled
      split at h
      · cases h
        exact .refl batchId _
      · rename_i hsettle
        cases h
        have hgiven := hlinked.completing_claims _ (Decidable.not_not.mp hcalled)
        exact settleJob_same hended (hlinked.claims_batch claim hgiven) hsettle
  | rollback claim outcome =>
    dsimp only at h
    split at h
    · cases h
    · cases h
      exact .refl batchId _
  | purge other =>
    cases h
    apply purge_same hended
    intro hsame
    exact hpurge (congrArg ResearchLabel.purge hsame)

end Runs

/-! ### Reads of a finished batch -/

section ReadRuns
variable {world world' : ReadWorld} {label : ReadLabel} {reply : ReadReply} {es : List ReadEntry}

/-- The tables that the reads see belong together. -/
def LinkedTables (env : ResearchEnvironment) (world : ReadWorld) : Prop := Linked env world.base

theorem linked_read (h : LinkedTables env world)
    (hstep : readStep env world label = some (reply, world')) : LinkedTables env world' := by
  cases label with
  | call call =>
    unfold readStep at hstep
    dsimp only at hstep
    split at hstep
    · cases hstep
    · rename_i base hcall
      cases hstep
      exact linked_step h hcall
  | queryBatch batchId ownerUserId =>
    unfold readStep at hstep
    dsimp only at hstep
    split at hstep <;> cases hstep <;> exact h
  | queryJobs index =>
    obtain ⟨reader, -, -, -, rfl⟩ := queryJobs_eq_some hstep
    exact h
  | queryResults index =>
    obtain ⟨reader, -, -, -, rfl⟩ := queryResults_eq_some hstep
    exact h

/-- After the tables `db` with an ended batch, and after the first `started` reads had begun:
the batch is as it was, and the later reads of it see it so. -/
structure Settles (env : ResearchEnvironment) (batchId ownerUserId : String) (db : ResearchStore)
    (started : Nat) (world : ReadWorld) : Prop where
  linked : Linked env world.base
  same : SameBatch batchId db world.base.db
  begun : started ≤ world.readers.length
  current : ∀ index reader, started ≤ index → world.readers[index]? = some reader →
    reader.batchId = batchId → reader.ownerUserId = ownerUserId → reader.Current db

/-- A step does not purge the owner. -/
def KeepsOwner (ownerUserId : String) (_ : ReadWorld) (label : ReadLabel) : Prop :=
  label ≠ .call (.purge ownerUserId)

theorem SameBatch.current {reader : Reader} (h : SameBatch batchId db db')
    (hbatch : reader.batchId = batchId) : reader.Current db ↔ reader.Current db' := by
  subst hbatch
  constructor
  · intro hcurrent
    refine ⟨h.queryBatch_eq.trans hcurrent.batch, fun rows hrows => ?_, fun rows hrows => ?_⟩
    · rw [h.queryJobs_eq]
      exact hcurrent.jobs rows hrows
    · rw [h.queryResults_eq]
      exact hcurrent.results rows hrows
  · intro hcurrent
    refine ⟨h.queryBatch_eq.symm.trans hcurrent.batch, fun rows hrows => ?_, fun rows hrows => ?_⟩
    · rw [← h.queryJobs_eq]
      exact hcurrent.jobs rows hrows
    · rw [← h.queryResults_eq]
      exact hcurrent.results rows hrows

theorem Settles.current_now {started : Nat}
    (h : Settles env batchId ownerUserId db started world) {index : Nat} {reader : Reader}
    (hstarted : started ≤ index) (hreader : world.readers[index]? = some reader)
    (hid : reader.batchId = batchId) (howner : reader.ownerUserId = ownerUserId) :
    reader.Current world.base.db :=
  (h.same.current hid).mp (h.current index reader hstarted hreader hid howner)

/-- The rows of a later read after one more of its queries. -/
theorem Settles.of_set {started : Nat} (h : Settles env batchId ownerUserId db started world)
    {index : Nat} {reader queried : Reader} (hreader : world.readers[index]? = some reader)
    (hid : queried.batchId = reader.batchId) (howner : queried.ownerUserId = reader.ownerUserId)
    (hcurrent : reader.Current world.base.db → queried.Current world.base.db) :
    Settles env batchId ownerUserId db started
      { world with readers := world.readers.set index queried } where
  linked := h.linked
  same := h.same
  begun := by
    rw [List.length_set]
    exact h.begun
  current := by
    intro other row hstarted hrow hbatch hrowOwner
    dsimp only at hrow
    rw [List.getElem?_set] at hrow
    split at hrow
    · rename_i hsame
      subst hsame
      split at hrow
      · cases hrow
        rw [h.same.current hbatch]
        exact hcurrent (h.current_now hstarted hreader (hid ▸ hbatch) (howner ▸ hrowOwner))
      · cases hrow
    · exact h.current other row hstarted hrow hbatch hrowOwner

theorem settles_step {started : Nat} (hended : BatchEnded batchId ownerUserId db)
    (h : Settles env batchId ownerUserId db started world)
    (hkept : KeepsOwner ownerUserId world label)
    (hstep : readStep env world label = some (reply, world')) :
    Settles env batchId ownerUserId db started world' := by
  have hlinked := linked_read h.linked hstep
  cases label with
  | call call =>
    unfold readStep at hstep
    dsimp only at hstep
    split at hstep
    · cases hstep
    · rename_i base hcall
      cases hstep
      have hpurge : call ≠ .purge ownerUserId := by
        intro hsame
        exact hkept (congrArg ReadLabel.call hsame)
      have hsame := sameBatch_step h.linked (h.same.ended hended) hpurge hcall
      exact ⟨hlinked, h.same.trans hsame, h.begun, h.current⟩
  | queryBatch readId readOwner =>
    unfold readStep at hstep
    dsimp only at hstep
    split at hstep
    · cases hstep
      exact h
    · rename_i batch hbatch
      cases hstep
      refine ⟨hlinked, h.same, ?_, fun index reader hstarted hreader hid howner => ?_⟩
      · have hbegun := h.begun
        rw [List.length_append, List.length_singleton]
        omega
      · dsimp only at hreader
        rw [List.getElem?_append] at hreader
        split at hreader
        · exact h.current index reader hstarted hreader hid howner
        · have hnew := List.mem_of_getElem? hreader
          cases List.mem_singleton.mp hnew
          rw [h.same.current hid]
          refine ⟨hbatch, fun rows hrows => ?_, fun rows hrows => ?_⟩
          · cases hrows
          · cases hrows
  | queryJobs index =>
    obtain ⟨reader, hreader, -, -, rfl⟩ := queryJobs_eq_some hstep
    exact h.of_set hreader rfl rfl Reader.Current.queryJobs
  | queryResults index =>
    obtain ⟨reader, hreader, -, -, rfl⟩ := queryResults_eq_some hstep
    exact h.of_set hreader rfl rfl Reader.Current.queryResults

/-- The read that a query belongs to. -/
def ReadLabel.reader : ReadLabel → Option Nat
  | .queryJobs index | .queryResults index => some index
  | _ => none

/-- A later read of the batch returns what its view was. -/
theorem Settles.read_view {started : Nat} (h : Settles env batchId ownerUserId db started world)
    (hstep : readStep env world label = some (reply, world')) {index : Nat} {view : BatchView}
    (hindex : label.reader = some index) (hstarted : started ≤ index)
    (hreply : reply = .read batchId ownerUserId view) :
    db.view batchId ownerUserId = some view := by
  rw [← h.same.view_eq]
  cases label with
  | call call => cases hindex
  | queryBatch readId readOwner => cases hindex
  | queryJobs other =>
    cases hindex
    obtain ⟨reader, hreader, -, hshows, -⟩ := queryJobs_eq_some hstep
    obtain ⟨hview, hid, howner⟩ := reply_eq_read (hshows.symm.trans hreply)
    have hnow := h.current_now hstarted hreader hid howner
    rw [← hid, ← howner]
    exact hnow.queryJobs.view hview
  | queryResults other =>
    cases hindex
    obtain ⟨reader, hreader, -, hshows, -⟩ := queryResults_eq_some hstep
    obtain ⟨hview, hid, howner⟩ := reply_eq_read (hshows.symm.trans hreply)
    have hnow := h.current_now hstarted hreader hid howner
    rw [← hid, ← howner]
    exact hnow.queryResults.view hview

/-- Once the tables show a batch as completed or failed, they show exactly that view as long as
its owner is not purged, and so does every read that begins afterwards, whatever other calls
come between its queries. -/
theorem finished_batch_stays {later : List ReadEntry} {view : BatchView}
    (hrun : Run (readStep env) .initial es world)
    (hview : world.base.db.view batchId ownerUserId = some view)
    (hfinished : view.state.isFinished = true) (hlater : Run (readStep env) world later world')
    (hkept : Guarded (KeepsOwner ownerUserId) later) :
    world'.base.db.view batchId ownerUserId = some view ∧
      ∀ entry ∈ later, ∀ index shown, entry.label.reader = some index →
        world.readers.length ≤ index → entry.reply = .read batchId ownerUserId shown →
          shown = view := by
  have hlinked : LinkedTables env world :=
    hrun.invariant (G := fun _ _ => True) (fun hs _ hstep => linked_read hs hstep)
      (fun _ _ => trivial) linked_initial
  have hended := batchEnded_of_view hview hfinished
  have hstart : Settles env batchId ownerUserId world.base.db world.readers.length world := by
    refine ⟨hlinked, .refl batchId _, Nat.le_refl _, fun index reader hstarted hreader => ?_⟩
    rw [List.getElem?_eq_none hstarted] at hreader
    cases hreader
  constructor
  · have hsettled := hlater.invariant (settles_step hended) hkept hstart
    rw [hsettled.same.view_eq]
    exact hview
  · intro entry hentry index shown hindex hstarted hreply
    have hsettled := (hlater.invariant_entry (settles_step hended) hkept hstart hentry).1
    have hshown := hsettled.read_view (hlater.entry_step hentry) hindex hstarted hreply
    exact Option.some.inj (hshown.symm.trans hview)

end ReadRuns

/-- A job completes. -/
def sampleFinish : List ReadLabel :=
  [.call (.createBatch sampleBatch 0), .call (.claimNext "worker" 10 1 fun _ => false),
   .call (.beginComplete (sampleClaim "worker" 1) sampleEvidence),
   .call (.settle (sampleClaim "worker" 1) sampleEvidence 2 2)]

/-- A read with calls between its queries. -/
def sampleLater : List ReadLabel :=
  [.queryBatch "batch" "owner", .call (.claimNext "other" 10 90 fun _ => false), .queryJobs 0,
   .call (.purge "neighbour"), .queryResults 0]

/-- The batch after its job completed. -/
def finishedView : BatchView :=
  { tornView with results := [⟨"result", "evidence", "summary"⟩], updatedAt := 2 }

def keepsOwner (ownerUserId : String) (entry : ReadEntry) : Bool :=
  match entry.label with
  | .call (.purge other) => other ≠ ownerUserId
  | _ => true

theorem keepsOwner_guard {entry : ReadEntry} (h : keepsOwner ownerUserId entry = true) :
    KeepsOwner ownerUserId entry.before entry.label := by
  intro hpurge
  unfold keepsOwner at h
  rw [hpurge] at h
  exact of_decide_eq_true h rfl

theorem finished_batch_stays_sample : ∃ es world later world',
    Run (readStep sampleResearch) .initial es world ∧ es.map Entry.label = sampleFinish ∧
      Run (readStep sampleResearch) world later world' ∧ later.map Entry.label = sampleLater ∧
      (∃ entry ∈ later, entry.reply = .read "batch" "owner" finishedView) ∧
      world'.base.db.view "batch" "owner" = some finishedView ∧
      ∀ entry ∈ later, ∀ index shown, entry.label.reader = some index →
        world.readers.length ≤ index → entry.reply = .read "batch" "owner" shown →
          shown = finishedView := by
  have hexec : (exec (readStep sampleResearch) .initial sampleFinish).any
      (fun result => result.2.base.db.view "batch" "owner" = some finishedView &&
        (exec (readStep sampleResearch) result.2 sampleLater).any fun rest =>
          rest.1.all (keepsOwner "owner") && rest.1.any fun entry =>
            entry.reply = .read "batch" "owner" finishedView) = true := by
    decide +kernel
  obtain ⟨es, world, hrun, hlabels, hcheck⟩ := exists_labelled_run_of_exec hexec
  rw [Bool.and_eq_true] at hcheck
  obtain ⟨later, world', hlater, hlaterLabels, hdone⟩ := exists_labelled_run_of_exec hcheck.2
  rw [Bool.and_eq_true, List.all_eq_true, List.any_eq_true] at hdone
  obtain ⟨hkept, entry, hentry, hreply⟩ := hdone
  have hguard : Guarded (KeepsOwner "owner") later := fun e he => keepsOwner_guard (hkept e he)
  exact ⟨es, world, later, world', hrun, hlabels, hlater, hlaterLabels,
    ⟨entry, hentry, of_decide_eq_true hreply⟩,
    finished_batch_stays hrun (of_decide_eq_true hcheck.1) rfl hlater hguard⟩

end ChoiceMind.SourceResearch
