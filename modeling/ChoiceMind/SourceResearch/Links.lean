import ChoiceMind.SourceResearch.System

/-!
# Links between the rows

The ids of jobs are never drawn twice, so a claim belongs to one job for ever, and the results
go when their job goes.
-/

namespace ChoiceMind.SourceResearch

set_option autoImplicit false

open Contracts SourceAccess Transition

variable {env : ResearchEnvironment} {world world' : ResearchWorld} {label : ResearchLabel}
  {reply : ResearchReply}

theorem JobStep.before {s t : ResearchStore} {jobId : String} {job : Job}
    (h : JobStep env s t jobId label reply) (hjob : t.jobs.find? jobId = some job) :
    (∃ old, s.jobs.find? jobId = some old ∧ old.batchId = job.batchId) ∨
      s.jobs.find? jobId = none ∧ (t.batches.find? job.batchId).isSome = true ∧
        ∃ index, s.uuidsDrawn ≤ index ∧ index < t.uuidsDrawn ∧ jobId = env.randomUUID index := by
  cases h with
  | same hrow => exact .inl ⟨job, hrow ▸ hjob, rfl⟩
  | created new hbefore hafter _ hbatch _ _ _ hdrawn =>
    cases hafter.symm.trans hjob
    exact .inr ⟨hbefore, hbatch, hdrawn⟩
  | purged hafter =>
    rw [hafter] at hjob
    cases hjob
  | settled old claim outcome lockedAt timestamp hlabel hreply hbefore hheld hafter =>
    cases hafter.symm.trans hjob
    exact .inl ⟨old, hbefore, (settled_batchId outcome timestamp old).symm⟩
  | resumed old _ _ hbefore hafter =>
    cases hafter.symm.trans hjob
    exact .inl ⟨old, hbefore, rfl⟩
  | exhausted old _ hbefore hafter =>
    cases hafter.symm.trans hjob
    exact .inl ⟨old, hbefore, rfl⟩
  | claimed old _ _ _ hbefore hafter =>
    cases hafter.symm.trans hjob
    exact .inl ⟨old, hbefore, rfl⟩
  | renewed old _ _ hbefore hafter =>
    cases hafter.symm.trans hjob
    exact .inl ⟨old, hbefore, rfl⟩
  | checkpointed old _ _ hbefore hafter =>
    cases hafter.symm.trans hjob
    exact .inl ⟨old, hbefore, rfl⟩

theorem JobStep.after {s t : ResearchStore} {jobId : String} {job : Job}
    (h : JobStep env s t jobId label reply) (hjob : s.jobs.find? jobId = some job) :
    t.jobs.find? jobId = none ∧ t.resultsOf jobId = [] ∨
      ∃ new, t.jobs.find? jobId = some new ∧ new.batchId = job.batchId := by
  cases h with
  | same hrow => exact .inr ⟨job, hrow.trans hjob, rfl⟩
  | created new hbefore =>
    rw [hbefore] at hjob
    cases hjob
  | purged hafter hresults => exact .inl ⟨hafter, hresults⟩
  | settled old claim outcome lockedAt timestamp hlabel hreply hbefore hheld hafter =>
    cases hbefore.symm.trans hjob
    exact .inr ⟨_, hafter, settled_batchId outcome timestamp job⟩
  | resumed old _ _ hbefore hafter =>
    cases hbefore.symm.trans hjob
    exact .inr ⟨_, hafter, rfl⟩
  | exhausted old _ hbefore hafter =>
    cases hbefore.symm.trans hjob
    exact .inr ⟨_, hafter, rfl⟩
  | claimed old _ _ _ hbefore hafter =>
    cases hbefore.symm.trans hjob
    exact .inr ⟨_, hafter, rfl⟩
  | renewed old _ _ hbefore hafter =>
    cases hbefore.symm.trans hjob
    exact .inr ⟨_, hafter, rfl⟩
  | checkpointed old _ _ hbefore hafter =>
    cases hbefore.symm.trans hjob
    exact .inr ⟨_, hafter, rfl⟩

/-- The call of `complete` that a step ends. -/
def ResearchLabel.completes : ResearchLabel → Option (SourceResearchClaim × SourceResearchOutcome)
  | .settle claim outcome _ _ | .rollback claim outcome => some (claim, outcome)
  | _ => none

/-- What a step leaves of the other tables and of the calls. -/
structure Grown (world world' : ResearchWorld) (reply : ResearchReply) : Prop where
  drawn : world.db.uuidsDrawn ≤ world'.db.uuidsDrawn
  claims : world'.claims = world.claims ++ reply.given
  given : ∀ claim ∈ reply.given,
    ∃ job, world.db.jobs.find? claim.jobId = some job ∧ job.batchId = claim.batchId
  completing : ∀ call ∈ world'.completing, call ∈ world.completing ∨ call.1 ∈ world.claims
  batches : ∀ batchId, (world.db.batches.find? batchId).isSome = true →
    (world'.db.batches.find? batchId).isSome = true ∨
      ∀ job ∈ world'.db.jobs, job.batchId ≠ batchId
  results : ∀ result ∈ world'.db.results, result ∈ world.db.results ∨
    ∃ call ∈ world.completing, result.jobId = call.1.jobId ∧ result.batchId = call.1.batchId ∧
      ∃ job, world.db.jobs.find? call.1.jobId = some job

theorem Grown.refl (world : ResearchWorld) (hgiven : reply.given = []) :
    Grown world world reply where
  drawn := Nat.le_refl _
  claims := by rw [hgiven, List.append_nil]
  given := by simp [hgiven]
  completing := fun _ hcall => .inl hcall
  batches := fun _ hbatch => .inl hbatch
  results := fun _ hresult => .inl hresult

/-- A step that only changes job rows. -/
theorem Grown.of_jobs {jobs : Table Job.jobId} (hgiven : reply.given = []) :
    Grown world { world with db := { world.db with jobs } } reply where
  drawn := Nat.le_refl _
  claims := by rw [hgiven, List.append_nil]
  given := by simp [hgiven]
  completing := fun _ hcall => .inl hcall
  batches := fun _ hbatch => .inl hbatch
  results := fun _ hresult => .inl hresult

/-- A call of `complete` ends. -/
theorem Grown.of_erase {call : SourceResearchClaim × SourceResearchOutcome}
    (hgiven : reply.given = []) :
    Grown world { world with completing := world.completing.erase call } reply where
  drawn := Nat.le_refl _
  claims := by rw [hgiven, List.append_nil]
  given := by simp [hgiven]
  completing := fun _ hcall => .inl (List.mem_of_mem_erase hcall)
  batches := fun _ hbatch => .inl hbatch
  results := fun _ hresult => .inl hresult

theorem createBatch_grown {command : CreateBatchCommand} {now : Instant} {db : ResearchStore}
    (h : createBatch env command now world.db = .ok db) :
    Grown world { world with db } .done := by
  rcases createBatch_added h with rfl | ⟨batch, batches, hinsert, -, hadded⟩
  · exact .refl world rfl
  · refine ⟨hadded.drawn, (List.append_nil _).symm, nofun, fun _ hcall => .inl hcall,
      fun batchId hbatch => .inl ?_, fun result hresult => .inl ?_⟩
    · dsimp only
      rw [hadded.batches, Table.find?_insert? hinsert]
      split
      · rfl
      · exact hbatch
    · dsimp only at hresult
      rwa [hadded.results] at hresult

theorem purge_grown {ownerUserId : String} :
    Grown world { world with db := purgePrivateDataForOwner ownerUserId world.db } .done where
  drawn := Nat.le_refl _
  claims := (List.append_nil _).symm
  given := nofun
  completing := fun _ hcall => .inl hcall
  batches := by
    intro batchId hbatch
    unfold purgePrivateDataForOwner
    dsimp only
    obtain ⟨batch, hfound⟩ := Option.isSome_iff_exists.mp hbatch
    cases howns : world.db.ownsBatch ownerUserId batchId with
    | true =>
      refine .inr fun job hjob hsame => ?_
      have hkept := (Table.mem_deleteWhere.mp hjob).2
      rw [hsame, howns] at hkept
      cases hkept
    | false =>
      unfold ResearchStore.ownsBatch at howns
      rw [hfound, Option.any_some] at howns
      left
      rw [Table.find?_deleteWhere, hfound, Option.filter_some, howns]
      rfl
  results := fun _ hresult => .inl (Table.mem_deleteWhere.mp hresult).1

theorem settleJob_grown {claim : SourceResearchClaim} {outcome : SourceResearchOutcome}
    {lockedAt timestamp : Instant} {status : CompleteStatus} {db : ResearchStore}
    (hcall : (claim, outcome) ∈ world.completing)
    (h : settleJob claim outcome lockedAt timestamp world.db = .ok (status, db)) :
    Grown world { world with
      db, completing := world.completing.erase (claim, outcome) } (.completed status) := by
  unfold settleJob at h
  split at h
  · cases h
    exact .of_erase rfl
  · rename_i job hheld
    split at h
    · cases h
    · split at h
      · cases h
      · rename_i results hrecord
        cases h
        refine ⟨Nat.le_refl _, (List.append_nil _).symm, by rintro _ ⟨⟩,
          fun _ hmem => .inl (List.mem_of_mem_erase hmem), fun batchId hbatch => .inl ?_,
          fun result hresult => ?_⟩
        · dsimp only
          rw [Table.find?_update]
          split
          · rw [Option.isSome_map]
            exact hbatch
          · exact hbatch
        · unfold recordResult at hrecord
          split at hrecord
          · split at hrecord
            · cases hrecord
            · rcases (Table.mem_insert? hrecord).mp hresult with hold | rfl
              · exact .inl hold
              · exact .inr ⟨_, hcall, rfl, rfl, job, (held_eq_some.mp hheld).1⟩
          · cases hrecord
            exact .inl hresult

theorem researchStep_grown (h : researchStep env world label = some (reply, world')) :
    Grown world world' reply := by
  unfold researchStep at h
  cases label with
  | createBatch command now =>
    dsimp only at h
    split at h
    · cases h
      exact .refl _ rfl
    · rename_i hcreate
      cases h
      exact createBatch_grown hcreate
  | resumeSource scope now =>
    cases h
    exact .of_jobs rfl
  | claimNext workerId leaseDurationMs now locked =>
    dsimp only at h
    split at h
    · cases h
      exact .refl _ rfl
    · rename_i hclaim
      cases h
      rcases claimNext_ok hclaim with ⟨-, rfl⟩ | ⟨job, -, -, -, hsome, -⟩
      · exact .of_jobs rfl
      · cases hsome
    · rename_i hclaim
      cases h
      rcases claimNext_ok hclaim with ⟨hnone, -⟩ | ⟨job, hfound, -, -, hsome, rfl⟩
      · cases hnone
      · cases hsome
        refine ⟨Nat.le_refl _, rfl, fun claim hclaim => ?_, fun _ hcall => .inl hcall,
          fun _ hbatch => .inl hbatch, fun _ hresult => .inl hresult⟩
        cases List.mem_singleton.mp hclaim
        exact ⟨job, hfound, rfl⟩
  | renewLease claim leaseDurationMs now =>
    dsimp only at h
    split at h
    · cases h
    · unfold renewLease at h
      split at h
      · cases h
        exact .refl _ rfl
      · rename_i hrenew
        cases h
        split at hrenew
        · cases hrenew
        · split at hrenew
          · cases hrenew
            exact .refl _ rfl
          · cases hrenew
            exact .of_jobs rfl
  | saveCheckpoint claim checkpoint now =>
    dsimp only at h
    split at h
    · cases h
    · unfold saveCheckpoint at h
      cases hheld : world.db.held claim now with
      | none =>
        rw [hheld] at h
        cases h
        exact .refl _ rfl
      | some job =>
        rw [hheld] at h
        cases h
        exact .of_jobs rfl
  | beginComplete claim outcome =>
    dsimp only at h
    split at h
    · cases h
    · rename_i hclaim
      split at h
      · cases h
        exact .refl _ rfl
      · cases h
        refine ⟨Nat.le_refl _, (List.append_nil _).symm, by rintro _ ⟨⟩, fun call hcall => ?_,
          fun _ hbatch => .inl hbatch, fun _ hresult => .inl hresult⟩
        rcases List.mem_append.mp hcall with hold | hnew
        · exact .inl hold
        · cases List.mem_singleton.mp hnew
          exact .inr (not_not.mp hclaim)
  | settle claim outcome lockedAt timestamp =>
    dsimp only at h
    split at h
    · cases h
    · rename_i hcall
      split at h
      · cases h
        exact .of_erase rfl
      · rename_i hsettle
        cases h
        exact settleJob_grown (not_not.mp hcall) hsettle
  | rollback claim outcome =>
    dsimp only at h
    split at h
    · cases h
    · cases h
      exact .of_erase rfl
  | purge ownerUserId =>
    cases h
    exact purge_grown

theorem given_eq_nil (h : ∀ claim, reply ≠ .claimed (some claim)) : reply.given = [] := by
  cases reply with
  | claimed claim =>
    cases claim with
    | none => rfl
    | some claim => exact absurd rfl (h claim)
  | _ => rfl

/-- Only `claimNext` gives out claims. -/
theorem label_of_given (h : researchStep env world label = some (reply, world'))
    {claim : SourceResearchClaim} (hgiven : claim ∈ reply.given) :
    ∃ workerId leaseDurationMs now locked,
      label = .claimNext workerId leaseDurationMs now locked := by
  unfold researchStep at h
  cases label with
  | claimNext workerId leaseDurationMs now locked =>
    exact ⟨workerId, leaseDurationMs, now, locked, rfl⟩
  | _ =>
    dsimp only at h
    repeat' split at h
    all_goals
      cases h
      try cases hgiven

/-- A call of `complete` goes on through the steps of other calls. -/
theorem completing_kept (h : researchStep env world label = some (reply, world'))
    {call : SourceResearchClaim × SourceResearchOutcome} (hcall : call ∈ world.completing)
    (hends : label.completes ≠ some call) : call ∈ world'.completing := by
  unfold researchStep at h
  cases label with
  | settle claim outcome lockedAt timestamp =>
    have hother : call ≠ (claim, outcome) := fun hsame => hends (congrArg some hsame.symm)
    dsimp only at h
    repeat' split at h
    · cases h
    all_goals
      cases h
      exact (List.mem_erase_of_ne hother).mpr hcall
  | rollback claim outcome =>
    have hother : call ≠ (claim, outcome) := fun hsame => hends (congrArg some hsame.symm)
    dsimp only at h
    split at h
    · cases h
    · cases h
      exact (List.mem_erase_of_ne hother).mpr hcall
  | beginComplete claim outcome =>
    dsimp only at h
    repeat' split at h
    · cases h
    · cases h
      exact hcall
    · cases h
      exact List.mem_append_left _ hcall
  | _ =>
    dsimp only at h
    repeat' split at h
    all_goals
      cases h
      try exact hcall

theorem linked_initial : Linked env .initial where
  jobs_drawn := fun _ hjob => absurd hjob (Table.not_mem_empty _)
  jobs_batch := fun _ hjob => absurd hjob (Table.not_mem_empty _)
  claims_drawn := fun _ hclaim => nomatch hclaim
  claims_batch := fun _ hclaim => nomatch hclaim
  completing_claims := fun _ hcall => nomatch hcall
  results_job := fun _ hresult => absurd hresult (Table.not_mem_empty _)

theorem linked_step (hlinked : Linked env world)
    (h : researchStep env world label = some (reply, world')) : Linked env world' := by
  have hgrown := researchStep_grown h
  have hdrawn := hgrown.drawn
  have hclaims : ∀ claim ∈ world'.claims, claim ∈ world.claims ∨
      ∃ job, world.db.jobs.find? claim.jobId = some job ∧ job.batchId = claim.batchId := by
    intro claim hclaim
    rw [hgrown.claims, List.mem_append] at hclaim
    exact hclaim.imp_right (hgrown.given claim)
  refine ⟨?_, ?_, ?_, ?_, ?_, ?_⟩
  · intro job hjob
    rcases (researchStep_job hlinked h job.jobId).before (Table.find?_of_mem hjob) with
      ⟨old, hold, -⟩ | ⟨-, -, index, -, hlt, hid⟩
    · obtain ⟨hmem, hkey⟩ := Table.find?_eq_some.mp hold
      obtain ⟨index, hlt, hid⟩ := hlinked.jobs_drawn old hmem
      exact ⟨index, by omega, hkey ▸ hid⟩
    · exact ⟨index, hlt, hid⟩
  · intro job hjob
    rcases (researchStep_job hlinked h job.jobId).before (Table.find?_of_mem hjob) with
      ⟨old, hold, hbatch⟩ | ⟨-, hbatch, -⟩
    · have hexists := hlinked.jobs_batch old (Table.find?_eq_some.mp hold).1
      rw [hbatch] at hexists
      rcases hgrown.batches _ hexists with hkept | hgone
      · exact hkept
      · exact absurd rfl (hgone job hjob)
    · exact hbatch
  · intro claim hclaim
    rcases hclaims claim hclaim with hold | ⟨job, hfound, -⟩
    · obtain ⟨index, hlt, hid⟩ := hlinked.claims_drawn claim hold
      exact ⟨index, by omega, hid⟩
    · obtain ⟨hmem, hkey⟩ := Table.find?_eq_some.mp hfound
      obtain ⟨index, hlt, hid⟩ := hlinked.jobs_drawn job hmem
      exact ⟨index, by omega, hkey ▸ hid⟩
  · intro claim hclaim job hjob
    rcases (researchStep_job hlinked h claim.jobId).before hjob with
      ⟨old, hold, hbatch⟩ | ⟨hnone, -, index, hlow, -, hid⟩
    · rcases hclaims claim hclaim with hmem | ⟨found, hfound, hsame⟩
      · exact (hlinked.claims_batch claim hmem old hold).trans hbatch
      · cases hfound.symm.trans hold
        exact hsame.symm.trans hbatch
    · -- the id of an earlier claim is not drawn again
      rcases hclaims claim hclaim with hmem | ⟨found, hfound, -⟩
      · obtain ⟨index', hlt, hid'⟩ := hlinked.claims_drawn claim hmem
        have hsame := env.randomUUID_injective (hid.symm.trans hid')
        omega
      · rw [hnone] at hfound
        cases hfound
  · intro call hcall
    have hclaim : call.1 ∈ world.claims := by
      rcases hgrown.completing call hcall with hold | hnew
      · exact hlinked.completing_claims call hold
      · exact hnew
    rw [hgrown.claims]
    exact List.mem_append_left _ hclaim
  · intro result hresult
    obtain ⟨job, hfound, hbatch⟩ : ∃ job, world.db.jobs.find? result.jobId = some job ∧
        job.batchId = result.batchId := by
      rcases hgrown.results result hresult with hold | ⟨call, hcall, hid, hsame, job, hfound⟩
      · exact hlinked.results_job result hold
      · have hbatch := hlinked.claims_batch call.1 (hlinked.completing_claims call hcall) job hfound
        exact ⟨job, hid ▸ hfound, hbatch.symm.trans hsame.symm⟩
    rcases (researchStep_job hlinked h result.jobId).after hfound with
      ⟨-, hgone⟩ | ⟨new, hnew, hkept⟩
    · have hmem : result ∈ world'.db.resultsOf result.jobId :=
        Table.mem_select.mpr ⟨hresult, decide_eq_true rfl⟩
      rw [hgone] at hmem
      cases hmem
    · exact ⟨new, hnew, hkept.trans hbatch⟩

end ChoiceMind.SourceResearch
