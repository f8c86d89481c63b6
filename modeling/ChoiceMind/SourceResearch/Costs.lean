import ChoiceMind.SourceResearch.Attempts
import ChoiceMind.SourceResearch.Batches
import Mathlib.Algebra.BigOperators.Group.List.Basic

/-!
# Results and costs

Only a settlement writes a result or a cost, and it takes the job out of `RUNNING`, so that a
second one finds no row. Calls that are repeated, that come too late or that belong to an earlier
claim leave both as they are.
-/

namespace ChoiceMind.SourceResearch

set_option autoImplicit false

open Contracts SourceAccess Transition

/-- The results of a job that a run has committed. -/
def settlements (jobId : String) (es : List ResearchEntry) : List SourceResearchOutcome :=
  es.filterMap fun entry => settlement jobId entry.label entry.reply

/-- The costs of what a run has committed for a job. -/
def settledCost (jobId : String) (es : List ResearchEntry) : Int :=
  ((settlements jobId es).map SourceResearchOutcome.costUnits).sum

/-- The job has ended with a result. -/
def JobState.isResult : JobState → Bool
  | .completed | .noResult => true
  | _ => false

/-- What the row of a job says after these settlements. -/
structure Job.Costed (outcomes : List SourceResearchOutcome) (job : Job) : Prop where
  paid : job.state.isResult = true → ∃ outcome, outcomes = [outcome] ∧
    job.costUnits = outcome.costUnits
  free : job.state.isResult = false → outcomes = [] ∧ job.costUnits = 0

namespace Job.Costed
variable {outcomes : List SourceResearchOutcome} {job : Job}

/-- A change between rows without a result. -/
theorem of_free {job' : Job} (h : job.Costed outcomes) (hbefore : job.state.isResult = false)
    (hafter : job'.state.isResult = false) (hcost : job'.costUnits = job.costUnits) :
    job'.Costed outcomes where
  paid := fun hresult => by
    rw [hafter] at hresult
    cases hresult
  free := fun _ => ⟨(h.free hbefore).1, hcost.trans (h.free hbefore).2⟩

/-- The first settlement of a running job. -/
theorem settled (h : job.Costed outcomes) (hrunning : job.state = .running)
    (outcome : SourceResearchOutcome) (timestamp : Instant) :
    (job.settled outcome timestamp).Costed
      (outcomes ++ (if outcome.isResult then some outcome else none).toList) := by
  have hnone : outcomes = [] := (h.free (by rw [hrunning]; rfl)).1
  subst hnone
  cases outcome with
  | evidence => exact ⟨fun _ => ⟨_, rfl, rfl⟩, nofun⟩
  | noResult => exact ⟨fun _ => ⟨_, rfl, rfl⟩, nofun⟩
  | waitingChallenge => exact ⟨nofun, fun _ => ⟨rfl, rfl⟩⟩
  | failedFinal => exact ⟨nofun, fun _ => ⟨rfl, rfl⟩⟩
  | failedRetryable =>
    unfold Job.settled
    dsimp only
    by_cases hlast : 5 ≤ job.attemptCount
    · rw [if_pos hlast]
      exact ⟨nofun, fun _ => ⟨rfl, rfl⟩⟩
    · rw [if_neg hlast]
      exact ⟨nofun, fun _ => ⟨rfl, rfl⟩⟩

end Job.Costed

/-! ### Runs -/

/-- The result row of a completed job. -/
def resultCount (job : Option Job) : Nat :=
  if job.any (fun job => job.state = .completed) then 1 else 0

/-- The results and settlements of one job so far. -/
structure Settled (env : ResearchEnvironment) (jobId : String) (es : List ResearchEntry)
    (world : ResearchWorld) : Prop where
  linked : Linked env world
  drawn : settlements jobId es ≠ [] → ∃ index < world.db.uuidsDrawn, jobId = env.randomUUID index
  results : (world.db.resultsOf jobId).length = resultCount (world.db.jobs.find? jobId)
  row : ∀ job, world.db.jobs.find? jobId = some job → job.Costed (settlements jobId es)

section Runs
variable {env : ResearchEnvironment} {jobId : String} {pre es : List ResearchEntry}
  {world world' : ResearchWorld} {label : ResearchLabel} {reply : ResearchReply}

theorem settlements_append {entry : ResearchEntry} : settlements jobId (pre ++ [entry]) =
    settlements jobId pre ++ (settlement jobId entry.label entry.reply).toList := by
  unfold settlements
  rw [List.filterMap_append, List.filterMap_cons, List.filterMap_nil]
  cases settlement jobId entry.label entry.reply <;> rfl

theorem settled_initial : Settled env jobId [] .initial where
  linked := linked_initial
  drawn := fun hsettled => absurd rfl hsettled
  results := rfl
  row := fun _ hjob => nomatch hjob

/-- A step that keeps the results and that no settlement belongs to. -/
theorem Settled.of_quiet (h : Settled env jobId pre world)
    (hstep : researchStep env world label = some (reply, world'))
    (hquiet : settlement jobId label reply = none)
    (hresults : (world'.db.resultsOf jobId).length = resultCount (world'.db.jobs.find? jobId))
    (hrow : ∀ job', world'.db.jobs.find? jobId = some job' →
      job'.Costed (settlements jobId pre)) :
    Settled env jobId (pre ++ [⟨world, label, reply, world'⟩]) world' := by
  have hsame : settlements jobId (pre ++ [⟨world, label, reply, world'⟩]) =
      settlements jobId pre := by
    rw [settlements_append, hquiet]
    exact List.append_nil _
  refine ⟨linked_step h.linked hstep, fun hsettled => ?_, hresults, fun job' hjob' => ?_⟩
  · rw [hsame] at hsettled
    obtain ⟨index, hlt, hid⟩ := h.drawn hsettled
    exact ⟨index, hlt.trans_le (researchStep_grown hstep).drawn, hid⟩
  · rw [hsame]
    exact hrow job' hjob'

theorem not_completed {state : JobState} (h : state.isResult = false) :
    decide (state = .completed) = false := by
  cases state <;> first | rfl | cases h

theorem claimable_free {job : Job} {now : Instant} (h : job.isClaimable now = true) :
    job.state.isResult = false := by
  unfold Job.isClaimable at h
  simp only [Bool.or_eq_true, Bool.and_eq_true, decide_eq_true_eq] at h
  rcases h with (hstate | ⟨hstate, -⟩) | ⟨⟨hstate, -⟩, -⟩ <;>
  · rw [hstate]
    rfl

/-- A change of one row between states without a result. -/
theorem Settled.of_row (h : Settled env jobId pre world)
    (hstep : researchStep env world label = some (reply, world'))
    (hquiet : settlement jobId label reply = none)
    {job job' : Job} (hbefore : world.db.jobs.find? jobId = some job)
    (hafter : world'.db.jobs.find? jobId = some job')
    (hresults : world'.db.resultsOf jobId = world.db.resultsOf jobId)
    (hstate : job.state.isResult = false) (hstate' : job'.state.isResult = false)
    (hcost : job'.costUnits = job.costUnits) :
    Settled env jobId (pre ++ [⟨world, label, reply, world'⟩]) world' := by
  refine h.of_quiet hstep hquiet ?_ fun new hnew => ?_
  · rw [hresults, h.results, hbefore, hafter]
    unfold resultCount
    rw [Option.any_some, Option.any_some, not_completed hstate, not_completed hstate']
  · cases hafter.symm.trans hnew
    exact (h.row job hbefore).of_free hstate hstate' hcost

theorem settled_step (h : Settled env jobId pre world)
    (hstep : researchStep env world label = some (reply, world')) :
    Settled env jobId (pre ++ [⟨world, label, reply, world'⟩]) world' := by
  cases researchStep_job h.linked hstep jobId with
  | same hrow hresults hquiet =>
    refine h.of_quiet hstep hquiet.settlement_eq ?_ fun job hjob => h.row job (hrow.symm.trans hjob)
    rw [hresults, h.results, hrow]
  | created job hbefore hafter hresults _ hqueued _ hcost hfresh hquiet =>
    have hnone : settlements jobId pre = [] := by
      by_contra hsettled
      obtain ⟨index, hlt, hid⟩ := h.drawn hsettled
      obtain ⟨fresh, hlow, -, hid'⟩ := hfresh
      have hsame := env.randomUUID_injective (hid.symm.trans hid')
      omega
    refine h.of_quiet hstep hquiet.settlement_eq ?_ fun job' hjob' => ?_
    · rw [hresults, h.results, hbefore, hafter]
      unfold resultCount
      rw [Option.any_some, hqueued]
      rfl
    · cases hafter.symm.trans hjob'
      refine ⟨fun hstate => ?_, fun _ => ⟨hnone, hcost⟩⟩
      rw [hqueued] at hstate
      cases hstate
  | purged hafter hresults hquiet =>
    refine h.of_quiet hstep hquiet.settlement_eq ?_ fun job hjob => ?_
    · rw [hresults, hafter]
      rfl
    · rw [hafter] at hjob
      cases hjob
  | resumed job scope now hbefore hafter hresults _ hwaits hquiet =>
    unfold Job.waitsFor at hwaits
    simp only [Bool.and_eq_true, decide_eq_true_eq] at hwaits
    have hfree : job.state.isResult = false := by rw [hwaits.2]; rfl
    exact h.of_row hstep hquiet.settlement_eq hbefore hafter hresults hfree rfl rfl
  | exhausted job now hbefore hafter hresults hexhausted hquiet =>
    unfold Job.isExhausted at hexhausted
    simp only [Bool.and_eq_true, decide_eq_true_eq] at hexhausted
    have hfree : job.state.isResult = false := by rw [hexhausted.1.1]; rfl
    exact h.of_row hstep hquiet.settlement_eq hbefore hafter hresults hfree rfl rfl
  | claimed job workerId leaseDurationMs now hbefore hafter hresults hclaimable hreply =>
    exact h.of_row hstep (by rw [hreply]; rfl) hbefore hafter hresults (claimable_free hclaimable)
      rfl rfl
  | renewed job leaseDurationMs now hbefore hafter hresults hrunning hquiet =>
    have hfree : job.state.isResult = false := by rw [hrunning]; rfl
    exact h.of_row hstep hquiet.settlement_eq hbefore hafter hresults hfree hfree rfl
  | checkpointed job checkpoint now hbefore hafter hresults hrunning hquiet =>
    have hfree : job.state.isResult = false := by rw [hrunning]; rfl
    exact h.of_row hstep hquiet.settlement_eq hbefore hafter hresults hfree hfree rfl
  | settled job claim outcome lockedAt timestamp hlabel hreply hbefore hheld hafter hresults =>
    have hid : claim.jobId = jobId := by
      have hkey := (Table.find?_eq_some.mp hbefore).2
      unfold Job.heldBy at hheld
      simp only [Bool.and_eq_true, decide_eq_true_eq] at hheld
      exact hheld.1.1.1.symm.trans hkey
    have hrunning := heldBy_running hheld
    have hsettled : settlements jobId (pre ++ [⟨world, label, reply, world'⟩]) =
        settlements jobId pre ++ (if outcome.isResult then some outcome else none).toList := by
      rw [settlements_append, hlabel, hreply]
      unfold settlement
      dsimp only
      rw [decide_eq_true hid, Bool.true_and]
    obtain ⟨index, hlt, hdrawn⟩ := h.linked.jobs_drawn job (Table.find?_eq_some.mp hbefore).1
    refine ⟨linked_step h.linked hstep, fun _ => ⟨index, ?_, ?_⟩, ?_, fun job' hjob' => ?_⟩
    · exact hlt.trans_le (researchStep_grown hstep).drawn
    · exact (Table.find?_eq_some.mp hbefore).2.symm.trans hdrawn
    · rw [hresults, h.results, hbefore, hafter]
      unfold resultCount
      rw [Option.any_some, Option.any_some, hrunning]
      simp
    · cases hafter.symm.trans hjob'
      rw [hsettled]
      exact (h.row job hbefore).settled hrunning outcome timestamp

/-- What every run keeps to: one result row for a completed job and none for any other, and the
costs of the one outcome that settled the job. -/
structure CostsKept (es : List ResearchEntry) (world : ResearchWorld) : Prop where
  results : ∀ job ∈ world.db.jobs,
    job.state = .completed ↔ (world.db.resultsOf job.jobId).length = 1
  others : ∀ jobId, (∀ job, world.db.jobs.find? jobId = some job → job.state ≠ .completed) →
    world.db.resultsOf jobId = []
  paid : ∀ job ∈ world.db.jobs, job.state = .completed ∨ job.state = .noResult →
    ∃ outcome, settlements job.jobId es = [outcome] ∧ job.costUnits = outcome.costUnits
  free : ∀ job ∈ world.db.jobs, job.state ≠ .completed → job.state ≠ .noResult →
    settlements job.jobId es = [] ∧ job.costUnits = 0
  batch : ∀ batchId ownerUserId view, world.db.view batchId ownerUserId = some view →
    view.costUnits = ((world.db.jobs.select fun job => job.batchId = batchId).map
      fun job => settledCost job.jobId es).sum

theorem isResult_iff {state : JobState} :
    state.isResult = true ↔ state = .completed ∨ state = .noResult := by
  cases state <;> simp [JobState.isResult]

/-- The settlements of a job sum up to its costs. -/
theorem Job.Costed.settledCost {job : Job} (h : job.Costed (settlements jobId es)) :
    job.costUnits = settledCost jobId es := by
  unfold SourceResearch.settledCost
  cases hstate : job.state.isResult with
  | true =>
    obtain ⟨outcome, hsettled, hcost⟩ := h.paid hstate
    rw [hsettled, List.map_singleton, List.sum_singleton, hcost]
  | false =>
    obtain ⟨hsettled, hcost⟩ := h.free hstate
    rw [hsettled, List.map_nil, List.sum_nil, hcost]

theorem view_costUnits {db : ResearchStore} {batchId ownerUserId : String} {view : BatchView}
    (h : db.view batchId ownerUserId = some view) :
    view.costUnits = ((db.jobs.select fun job => job.batchId = batchId).map Job.costUnits).sum := by
  unfold ResearchStore.view at h
  rw [Option.map_eq_some_iff] at h
  obtain ⟨batch, -, rfl⟩ := h
  unfold batchView ResearchStore.queryJobs
  exact ((List.perm_insertionSort _ _).map _).sum_eq

theorem costs_kept (hrun : Run (researchStep env) .initial es world) : CostsKept es world := by
  have hsettled : ∀ jobId, Settled env jobId es world := by
    intro jobId
    have hhistory : Settled env jobId ([] ++ es) world :=
      hrun.history settled_step settled_initial
    rwa [List.nil_append] at hhistory
  have hrow : ∀ job ∈ world.db.jobs, job.Costed (settlements job.jobId es) :=
    fun job hjob => (hsettled job.jobId).row job (Table.find?_of_mem hjob)
  refine ⟨fun job hjob => ?_, fun jobId hnone => ?_, fun job hjob hstate => ?_,
    fun job hjob hcompleted hnoResult => ?_, fun batchId ownerUserId view hview => ?_⟩
  · rw [(hsettled job.jobId).results, Table.find?_of_mem hjob]
    unfold resultCount
    rw [Option.any_some]
    by_cases hstate : job.state = .completed <;> simp [hstate]
  · refine List.length_eq_zero_iff.mp ?_
    rw [(hsettled jobId).results]
    unfold resultCount
    cases hjob : world.db.jobs.find? jobId with
    | none => rfl
    | some job => rw [Option.any_some, decide_eq_false (hnone job hjob), if_neg Bool.false_ne_true]
  · exact (hrow job hjob).paid (isResult_iff.mpr hstate)
  · refine (hrow job hjob).free (Bool.not_eq_true _ ▸ fun hresult => ?_)
    exact (isResult_iff.mp hresult).elim hcompleted hnoResult
  · rw [view_costUnits hview]
    refine congrArg List.sum (List.map_congr_left fun job hjob => ?_)
    exact (hrow job (Table.mem_select.mp hjob).1).settledCost

end Runs

def sampleEvidence : SourceResearchOutcome := .evidence "result" "evidence" "summary" 3

/-- Two workers complete the same job, and the second one repeats its call. -/
def sampleSettlements : List ResearchLabel :=
  [.createBatch sampleBatch 0, sampleClaimNext "first" 1, sampleClaimNext "second" 3,
   .beginComplete (sampleClaim "first" 1) sampleEvidence,
   .beginComplete (sampleClaim "second" 2) sampleEvidence,
   .settle (sampleClaim "second" 2) sampleEvidence 3 3,
   .settle (sampleClaim "first" 1) sampleEvidence 3 3,
   .beginComplete (sampleClaim "second" 2) sampleEvidence]

theorem costs_kept_sample : ∃ es world, Run (researchStep sampleResearch) .initial es world ∧
    es.map Entry.label = sampleSettlements ∧ settledCost sampleJobId es = 3 ∧
    CostsKept es world := by
  have hexec : (exec (researchStep sampleResearch) .initial sampleSettlements).any
      (fun result => settledCost sampleJobId result.1 == 3) = true := by decide +kernel
  obtain ⟨es, world, hrun, hlabels, hcost⟩ := exists_labelled_run_of_exec hexec
  exact ⟨es, world, hrun, hlabels, beq_iff_eq.mp hcost, costs_kept hrun⟩

end ChoiceMind.SourceResearch
