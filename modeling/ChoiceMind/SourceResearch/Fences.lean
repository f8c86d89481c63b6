import ChoiceMind.SourceResearch.Costs

/-!
# Calls on behalf of a claim

The statements of a claim look for its worker, not for the claim itself. A worker whose lease has
expired and that claims the job again holds it for its earlier claim as well.
-/

namespace ChoiceMind.SourceResearch

set_option autoImplicit false

open Contracts SourceAccess Transition

/-- The last claim of a job. -/
def ResearchWorld.latest (world : ResearchWorld) (jobId : String) : Option SourceResearchClaim :=
  (world.claims.filter fun claim => claim.jobId = jobId).getLast?

/-- The claim of a call that changes rows, and the instant at which it looks at the lease. -/
def ResearchLabel.call : ResearchLabel → Option (SourceResearchClaim × Instant)
  | .renewLease claim _ now => some (claim, now)
  | .saveCheckpoint claim _ now => some (claim, now)
  | .settle claim _ lockedAt _ => some (claim, lockedAt)
  | _ => none

def ResearchReply.isEffect : ResearchReply → Bool
  | .renewed .renewed => true
  | .saved .saved => true
  | .completed .committed => true
  | _ => false

/-- The lease duration or the costs of a call are accepted. -/
def ResearchLabel.isAccepted : ResearchLabel → Bool
  | .renewLease _ leaseDurationMs _ => isLeaseDuration leaseDurationMs
  | .settle _ outcome _ _ => isCostUnits outcome.costUnits
  | _ => true

/-- The job runs under a lease that has not expired. -/
def Job.isLeased (now : Instant) (job : Job) : Bool :=
  job.state = .running && job.leaseExpiresAt.any fun leaseExpiresAt => now < leaseExpiresAt

/-- A call takes effect for the last claim of its job and under its lease only, and changes
nothing for an earlier claim. -/
structure Fenced (entry : ResearchEntry) : Prop where
  effect : ∀ claim now, entry.label.call = some (claim, now) → entry.reply.isEffect = true →
    entry.before.latest claim.jobId = some claim ∧
      ∃ job, entry.before.db.jobs.find? claim.jobId = some job ∧ job.isLeased now = true
  stale : ∀ claim now, entry.label.call = some (claim, now) →
    entry.before.latest claim.jobId ≠ some claim → entry.after.db = entry.before.db

/-- Where the call of a claim is accepted, no other claim of its worker is the last one of the job
under a lease that has not expired. -/
def NotReclaimed (world : ResearchWorld) (label : ResearchLabel) : Prop :=
  ∀ claim now, label.call = some (claim, now) → label.isAccepted = true →
    ∀ later job, world.latest claim.jobId = some later → later.workerId = claim.workerId →
      world.db.jobs.find? claim.jobId = some job → job.isLeased now = true → later = claim

/-! ### The holder of a job -/

/-- A running job belongs to the worker of its last claim. -/
def Holder (jobId : String) (world : ResearchWorld) : Prop :=
  ∀ job, world.db.jobs.find? jobId = some job → job.state = .running →
    ∃ later, world.latest jobId = some later ∧ job.workerId = some later.workerId

section Holders
variable {env : ResearchEnvironment} {jobId : String} {world world' : ResearchWorld}
  {label : ResearchLabel} {reply : ResearchReply}

/-- A step that gives out no claim of a job leaves its last claim. -/
theorem latest_step (h : researchStep env world label = some (reply, world'))
    (hclaims : reply.claims jobId = false) : world'.latest jobId = world.latest jobId := by
  have hnone : (reply.given.filter fun claim => claim.jobId = jobId) = [] := by
    rw [← List.length_eq_zero_iff, ← List.countP_eq_length_filter, ResearchReply.countP_given,
      hclaims]
    rfl
  unfold ResearchWorld.latest
  rw [(researchStep_grown h).claims, List.filter_append, hnone, List.append_nil]

theorem latest_claimed (h : researchStep env world label = some (reply, world'))
    {claim : SourceResearchClaim} (hreply : reply = .claimed (some claim)) :
    world'.latest claim.jobId = some claim := by
  unfold ResearchWorld.latest
  have hgiven : reply.given.filter (fun other => other.jobId = claim.jobId) = [claim] := by
    rw [hreply]
    exact List.filter_cons_of_pos (decide_eq_true rfl)
  rw [(researchStep_grown h).claims, List.filter_append, hgiven, List.getLast?_concat]

theorem settled_not_running (outcome : SourceResearchOutcome) (timestamp : Instant) (job : Job) :
    (job.settled outcome timestamp).state ≠ .running := by
  cases outcome with
  | failedRetryable =>
    unfold Job.settled
    dsimp only
    split <;> exact nofun
  | _ => exact nofun

theorem holder_step (hlinked : Linked env world) (h : Holder jobId world)
    (hstep : researchStep env world label = some (reply, world')) : Holder jobId world' := by
  have hkept : reply.claims jobId = false → ∀ {job job' : Job},
      world.db.jobs.find? jobId = some job → job.state = .running →
      job'.workerId = job.workerId →
      ∃ later, world'.latest jobId = some later ∧ job'.workerId = some later.workerId := by
    intro hclaims job job' hjob hrunning hworker
    obtain ⟨later, hlatest, hholder⟩ := h job hjob hrunning
    exact ⟨later, (latest_step hstep hclaims).trans hlatest, hworker.trans hholder⟩
  intro job' hjob' hrunning
  cases researchStep_job hlinked hstep jobId with
  | same hrow _ hquiet => exact hkept hquiet.claims_eq (hrow.symm.trans hjob') hrunning rfl
  | created job _ hafter _ _ hqueued =>
    cases hafter.symm.trans hjob'
    rw [hqueued] at hrunning
    cases hrunning
  | purged hafter =>
    rw [hafter] at hjob'
    cases hjob'
  | resumed job _ _ _ hafter =>
    cases hafter.symm.trans hjob'
    cases hrunning
  | exhausted job _ _ hafter =>
    cases hafter.symm.trans hjob'
    cases hrunning
  | claimed job workerId _ _ hbefore hafter _ _ hreply =>
    cases hafter.symm.trans hjob'
    refine ⟨job.claim workerId, ?_, rfl⟩
    rw [← (Table.find?_eq_some.mp hbefore).2]
    exact latest_claimed hstep hreply
  | renewed job _ _ hbefore hafter _ hstate hquiet =>
    cases hafter.symm.trans hjob'
    exact hkept hquiet.claims_eq hbefore hstate rfl
  | checkpointed job _ _ hbefore hafter _ hstate hquiet =>
    cases hafter.symm.trans hjob'
    exact hkept hquiet.claims_eq hbefore hstate rfl
  | settled job _ outcome _ timestamp _ _ _ _ hafter =>
    cases hafter.symm.trans hjob'
    exact absurd hrunning (settled_not_running outcome timestamp _)

end Holders

/-! ### Calls -/

section Calls
variable {env : ResearchEnvironment} {es : List ResearchEntry} {world world' : ResearchWorld}
  {label : ResearchLabel} {reply : ResearchReply} {claim : SourceResearchClaim} {now : Instant}

theorem heldBy_iff {job : Job} : job.heldBy claim now = true ↔
    job.jobId = claim.jobId ∧ job.workerId = some claim.workerId ∧ job.isLeased now = true := by
  unfold Job.heldBy Job.isLeased
  simp only [Bool.and_eq_true, decide_eq_true_eq]
  tauto

/-- The result of a running job is its first, and its batch is there. -/
theorem recordResult_isSome (hlinked : Linked env world) (hsettled : ∀ jobId,
    (world.db.resultsOf jobId).length = resultCount (world.db.jobs.find? jobId))
    (hclaim : claim ∈ world.claims) {job : Job} (hheld : world.db.held claim now = some job)
    (outcome : SourceResearchOutcome) (timestamp : Instant) :
    (recordResult claim outcome timestamp world.db).isSome = true := by
  obtain ⟨hfound, hholds⟩ := held_eq_some.mp hheld
  cases outcome with
  | evidence resultKey evidenceId summary costUnits =>
    have hbatch := hlinked.jobs_batch job (Table.find?_eq_some.mp hfound).1
    rw [← hlinked.claims_batch claim hclaim job hfound] at hbatch
    have hnone : world.db.resultsOf claim.jobId = [] := by
      rw [← List.length_eq_zero_iff, hsettled, hfound]
      unfold resultCount
      rw [Option.any_some, heldBy_running hholds]
      rfl
    unfold recordResult
    dsimp only
    rw [Option.isNone_eq_false_iff.mpr hbatch, if_neg Bool.false_ne_true,
      Table.insert?_isSome_iff]
    intro result hresult hkey
    have hmem : result ∈ world.db.resultsOf claim.jobId :=
      Table.mem_select.mpr ⟨hresult, decide_eq_true (congrArg Prod.fst hkey)⟩
    rw [hnone] at hmem
    cases hmem
  | _ => rfl

/-- An accepted call takes effect exactly where its worker holds the job, and otherwise changes
nothing. -/
theorem call_effect (hlinked : Linked env world) (hsettled : ∀ jobId,
    (world.db.resultsOf jobId).length = resultCount (world.db.jobs.find? jobId))
    (h : researchStep env world label = some (reply, world'))
    (hcall : label.call = some (claim, now)) :
    claim ∈ world.claims ∧
      (reply.isEffect = true ↔ label.isAccepted = true ∧ (world.db.held claim now).isSome = true) ∧
      (reply.isEffect = false → world'.db = world.db) := by
  unfold researchStep at h
  cases label with
  | createBatch | resumeSource | claimNext | beginComplete | rollback | purge => cases hcall
  | renewLease claim' leaseDurationMs now' =>
    cases hcall
    dsimp only at h
    split at h
    · cases h
    · rename_i hclaim
      refine ⟨not_not.mp hclaim, ?_⟩
      unfold renewLease at h
      cases hduration : isLeaseDuration leaseDurationMs with
      | false =>
        rw [hduration] at h
        cases h
        exact ⟨by simp [ResearchReply.isEffect, ResearchLabel.isAccepted, hduration], fun _ => rfl⟩
      | true =>
        rw [hduration] at h
        cases hheld : world.db.held claim now with
        | none =>
          rw [hheld] at h
          cases h
          exact ⟨by simp [ResearchReply.isEffect], fun _ => rfl⟩
        | some job =>
          rw [hheld] at h
          cases h
          exact ⟨iff_of_true rfl ⟨hduration, rfl⟩, nofun⟩
  | saveCheckpoint claim' checkpoint now' =>
    cases hcall
    dsimp only at h
    split at h
    · cases h
    · rename_i hclaim
      refine ⟨not_not.mp hclaim, ?_⟩
      unfold saveCheckpoint at h
      cases hheld : world.db.held claim now with
      | none =>
        rw [hheld] at h
        cases h
        exact ⟨by simp [ResearchReply.isEffect], fun _ => rfl⟩
      | some job =>
        rw [hheld] at h
        cases h
        exact ⟨iff_of_true rfl ⟨rfl, rfl⟩, nofun⟩
  | settle claim' outcome lockedAt timestamp =>
    cases hcall
    dsimp only at h
    split at h
    · cases h
    · rename_i hpending
      have hclaim := hlinked.completing_claims _ (not_not.mp hpending)
      refine ⟨hclaim, ?_⟩
      unfold settleJob at h
      cases hheld : world.db.held claim now with
      | none =>
        rw [hheld] at h
        cases h
        exact ⟨by simp [ResearchReply.isEffect], fun _ => rfl⟩
      | some job =>
        rw [hheld] at h
        cases hcost : isCostUnits outcome.costUnits with
        | false =>
          rw [hcost] at h
          cases h
          exact ⟨by simp [ResearchReply.isEffect, ResearchLabel.isAccepted, hcost], fun _ => rfl⟩
        | true =>
          obtain ⟨results, hrecord⟩ := Option.isSome_iff_exists.mp
            (recordResult_isSome hlinked hsettled hclaim hheld outcome timestamp)
          rw [hcost, hrecord] at h
          cases h
          exact ⟨iff_of_true rfl ⟨hcost, rfl⟩, nofun⟩

end Calls

/-! ### Runs -/

/-- What holds around every call. -/
structure Consistent (env : ResearchEnvironment) (world : ResearchWorld) : Prop where
  linked : Linked env world
  settled : ∀ jobId, ∃ pre, Settled env jobId pre world
  holder : ∀ jobId, Holder jobId world

section Runs
variable {env : ResearchEnvironment} {es : List ResearchEntry} {world world' : ResearchWorld}
  {label : ResearchLabel} {reply : ResearchReply}

theorem consistent_initial : Consistent env .initial :=
  ⟨linked_initial, fun _ => ⟨[], settled_initial⟩, fun _ _ hjob => nomatch hjob⟩

theorem consistent_step (h : Consistent env world)
    (hstep : researchStep env world label = some (reply, world')) : Consistent env world' where
  linked := linked_step h.linked hstep
  settled := fun jobId =>
    have ⟨_, hsettled⟩ := h.settled jobId
    ⟨_, settled_step hsettled hstep⟩
  holder := fun jobId => holder_step h.linked (h.holder jobId) hstep

theorem Consistent.results (h : Consistent env world) (jobId : String) :
    (world.db.resultsOf jobId).length = resultCount (world.db.jobs.find? jobId) :=
  have ⟨_, hsettled⟩ := h.settled jobId
  hsettled.results

/-- A job that a claim holds belongs to the worker of its last claim. -/
theorem Consistent.held_latest (h : Consistent env world) {claim : SourceResearchClaim}
    {now : Instant} {job : Job} (hheld : world.db.held claim now = some job) :
    ∃ later, world.latest claim.jobId = some later ∧ later.workerId = claim.workerId := by
  obtain ⟨hfound, hholds⟩ := held_eq_some.mp hheld
  obtain ⟨later, hlatest, hworker⟩ :=
    h.holder claim.jobId job hfound (heldBy_running hholds)
  obtain ⟨-, hclaim, -⟩ := heldBy_iff.mp hholds
  exact ⟨later, hlatest, Option.some.inj (hworker.symm.trans hclaim)⟩

theorem fenced_of_notReclaimed (h : Consistent env world)
    (hstep : researchStep env world label = some (reply, world'))
    (hfree : NotReclaimed world label) : Fenced ⟨world, label, reply, world'⟩ := by
  -- the last claim is the one that an effect is for
  have heffect : ∀ claim now, label.call = some (claim, now) → reply.isEffect = true →
      world.latest claim.jobId = some claim ∧
        ∃ job, world.db.jobs.find? claim.jobId = some job ∧ job.isLeased now = true := by
    intro claim now hcall hreply
    obtain ⟨-, heffect, -⟩ := call_effect h.linked h.results hstep hcall
    obtain ⟨haccepted, hsome⟩ := heffect.mp hreply
    obtain ⟨job, hheld⟩ := Option.isSome_iff_exists.mp hsome
    obtain ⟨hfound, hholds⟩ := held_eq_some.mp hheld
    obtain ⟨-, -, hleased⟩ := heldBy_iff.mp hholds
    obtain ⟨later, hlatest, hworker⟩ := h.held_latest hheld
    have hsame := hfree claim now hcall haccepted later job hlatest hworker hfound hleased
    exact ⟨hsame ▸ hlatest, job, hfound, hleased⟩
  refine ⟨heffect, fun claim now hcall hstale => ?_⟩
  obtain ⟨-, -, hunchanged⟩ := call_effect h.linked h.results hstep hcall
  refine hunchanged (Bool.not_eq_true _ ▸ fun hreply => ?_)
  exact hstale (heffect claim now hcall hreply).1

theorem notReclaimed_of_fenced (h : Consistent env world)
    (hstep : researchStep env world label = some (reply, world'))
    (hfenced : Fenced ⟨world, label, reply, world'⟩) : NotReclaimed world label := by
  intro claim now hcall haccepted later job hlatest hworker hfound hleased
  -- the worker of the last claim holds the job for this claim, too
  have hrunning : job.state = .running := by
    unfold Job.isLeased at hleased
    simp only [Bool.and_eq_true, decide_eq_true_eq] at hleased
    exact hleased.1
  obtain ⟨holder, hholder, hjob⟩ := h.holder claim.jobId job hfound hrunning
  cases hholder.symm.trans hlatest
  have hheld : world.db.held claim now = some job := by
    refine held_eq_some.mpr ⟨hfound, heldBy_iff.mpr ⟨?_, ?_, hleased⟩⟩
    · exact (Table.find?_eq_some.mp hfound).2
    · rw [hjob, hworker]
  obtain ⟨-, heffect, -⟩ := call_effect h.linked h.results hstep hcall
  have hreply : reply.isEffect = true := by
    refine heffect.mpr ⟨haccepted, ?_⟩
    rw [hheld]
    rfl
  exact Option.some.inj (hlatest.symm.trans (hfenced.effect claim now hcall hreply).1)

/-- In every run a call is fenced exactly where its worker has not claimed the job again. -/
theorem call_fenced_iff (hrun : Run (researchStep env) .initial es world) {entry : ResearchEntry}
    (hentry : entry ∈ es) : Fenced entry ↔ NotReclaimed entry.before entry.label := by
  have hbefore : Consistent env entry.before :=
    (hrun.invariant_entry (G := fun _ _ => True) (fun h _ hstep => consistent_step h hstep)
      (fun _ _ => trivial) consistent_initial hentry).1
  have hstep := hrun.entry_step hentry
  exact ⟨notReclaimed_of_fenced hbefore hstep, fenced_of_notReclaimed hbefore hstep⟩

end Runs

/-- The worker claims the job again after its lease has expired, and a call of its first claim
saves a checkpoint. -/
def sampleReclaimed : List ResearchLabel :=
  [.createBatch sampleBatch 0, .claimNext "worker" 10 1 fun _ => false,
   .claimNext "worker" 10 11 fun _ => false, .saveCheckpoint (sampleClaim "worker" 1) "stale" 12]

/-- The call of an earlier claim takes effect. -/
def savesStale (entry : ResearchEntry) : Bool :=
  entry.label.call == some (sampleClaim "worker" 1, 12) && entry.reply.isEffect &&
    entry.before.latest sampleJobId == some (sampleClaim "worker" 2)

theorem call_not_fenced : ∃ es world, Run (researchStep sampleResearch) .initial es world ∧
    es.map Entry.label = sampleReclaimed ∧ ∃ entry ∈ es, ¬ Fenced entry := by
  have hexec : (exec (researchStep sampleResearch) .initial sampleReclaimed).any
      (fun result => result.1.any savesStale) = true := by decide +kernel
  obtain ⟨es, world, hrun, hlabels, hsaves⟩ := exists_labelled_run_of_exec hexec
  obtain ⟨entry, hentry, hstale⟩ := List.any_eq_true.mp hsaves
  refine ⟨es, world, hrun, hlabels, entry, hentry, fun hfenced => ?_⟩
  unfold savesStale at hstale
  rw [Bool.and_eq_true, Bool.and_eq_true, beq_iff_eq, beq_iff_eq] at hstale
  obtain ⟨⟨hcall, heffect⟩, hlatest⟩ := hstale
  have hsame := (hfenced.effect _ _ hcall heffect).1
  rw [show (sampleClaim "worker" 1).jobId = sampleJobId from rfl, hlatest] at hsame
  exact absurd hsame (by decide)

/-- The call of a last claim. -/
theorem call_fenced_iff_sample : ∃ es world, Run (researchStep sampleResearch) .initial es world ∧
    es.map Entry.label = [.createBatch sampleBatch 0, .claimNext "worker" 10 1 fun _ => false,
      .saveCheckpoint (sampleClaim "worker" 1) "half" 2] ∧
    ∃ entry ∈ es, entry.reply = .saved .saved ∧
      (Fenced entry ↔ NotReclaimed entry.before entry.label) := by
  have hexec : (exec (researchStep sampleResearch) .initial
      [.createBatch sampleBatch 0, .claimNext "worker" 10 1 fun _ => false,
        .saveCheckpoint (sampleClaim "worker" 1) "half" 2]).any
      (fun result => result.1.any fun entry => entry.reply = .saved .saved) = true := by
    decide +kernel
  obtain ⟨es, world, hrun, hlabels, hsaves⟩ := exists_labelled_run_of_exec hexec
  obtain ⟨entry, hentry, hreply⟩ := List.any_eq_true.mp hsaves
  exact ⟨es, world, hrun, hlabels, entry, hentry, of_decide_eq_true hreply,
    call_fenced_iff hrun hentry⟩

end ChoiceMind.SourceResearch
