import ChoiceMind.SourceResearch.Links

/-!
# Attempts

Each claim of a job is one attempt, and the limit is enforced where a claim expires and where a
failed attempt settles. A job that waited for a login comes back with its attempts spent, so
each of its resumptions allows one claim more.
-/

namespace ChoiceMind.SourceResearch

set_option autoImplicit false

open Contracts SourceAccess Transition

abbrev ResearchEntry := Entry ResearchWorld ResearchLabel ResearchReply

/-- The step puts the waiting job back into the queue. -/
def requeues (jobId : String) (entry : ResearchEntry) : Bool :=
  match entry.label with
  | .resumeSource scope _ => (entry.before.db.jobs.find? jobId).any (Job.waitsFor scope)
  | _ => false

def requeueCount (jobId : String) (es : List ResearchEntry) : Nat := es.countP (requeues jobId)

def claimCount (jobId : String) (es : List ResearchEntry) : Nat :=
  es.countP fun entry => entry.reply.claims jobId

section Counts
variable {jobId : String} {pre : List ResearchEntry} {entry : ResearchEntry}

theorem requeueCount_append : requeueCount jobId (pre ++ [entry]) =
    requeueCount jobId pre + if requeues jobId entry then 1 else 0 := by
  unfold requeueCount
  rw [List.countP_append, List.countP_singleton]

theorem requeueCount_le : requeueCount jobId pre ≤ requeueCount jobId (pre ++ [entry]) := by
  rw [requeueCount_append]
  omega

theorem claimCount_append : claimCount jobId (pre ++ [entry]) =
    claimCount jobId pre + if entry.reply.claims jobId then 1 else 0 := by
  unfold claimCount
  rw [List.countP_append, List.countP_singleton]

end Counts

/-! ### Numbers of claims -/

/-- The attempt of a claim is one that its job has reached. -/
def Numbered (world : ResearchWorld) : Prop :=
  ∀ claim ∈ world.claims, ∀ job, world.db.jobs.find? claim.jobId = some job →
    claim.attemptCount ≤ job.attemptCount

section Numbers
variable {env : ResearchEnvironment} {world world' : ResearchWorld} {label : ResearchLabel}
  {reply : ResearchReply} {claim : SourceResearchClaim}

theorem claims_of_mem_given (h : claim ∈ reply.given) : reply.claims claim.jobId = true := by
  cases reply with
  | claimed given =>
    cases given with
    | none => cases h
    | some given =>
      cases List.mem_singleton.mp h
      exact decide_eq_true rfl
  | _ => cases h

/-- The claim that a step gives out has the next number. -/
theorem attempt_of_given (hlinked : Linked env world)
    (h : researchStep env world label = some (reply, world')) (hgiven : claim ∈ reply.given) :
    ∃ job job', world.db.jobs.find? claim.jobId = some job ∧
      world'.db.jobs.find? claim.jobId = some job' ∧
      claim.attemptCount = job.attemptCount + 1 ∧ job'.attemptCount = claim.attemptCount := by
  have hclaims := claims_of_mem_given hgiven
  cases researchStep_job hlinked h claim.jobId with
  | claimed job workerId leaseDurationMs now hbefore hafter _ _ hreply =>
    rw [hreply] at hgiven
    cases List.mem_singleton.mp hgiven
    exact ⟨job, _, hbefore, hafter, rfl, rfl⟩
  | same _ _ hquiet => exact absurd (hquiet.claims_eq.symm.trans hclaims) Bool.false_ne_true
  | created _ _ _ _ _ _ _ _ _ hquiet =>
    exact absurd (hquiet.claims_eq.symm.trans hclaims) Bool.false_ne_true
  | purged _ _ hquiet => exact absurd (hquiet.claims_eq.symm.trans hclaims) Bool.false_ne_true
  | resumed _ _ _ _ _ _ _ _ hquiet =>
    exact absurd (hquiet.claims_eq.symm.trans hclaims) Bool.false_ne_true
  | exhausted _ _ _ _ _ _ hquiet =>
    exact absurd (hquiet.claims_eq.symm.trans hclaims) Bool.false_ne_true
  | renewed _ _ _ _ _ _ _ hquiet =>
    exact absurd (hquiet.claims_eq.symm.trans hclaims) Bool.false_ne_true
  | checkpointed _ _ _ _ _ _ _ hquiet =>
    exact absurd (hquiet.claims_eq.symm.trans hclaims) Bool.false_ne_true
  | settled _ _ _ _ _ _ hreply =>
    rw [hreply] at hclaims
    cases hclaims

/-- No claim is given out twice. -/
theorem given_fresh (hlinked : Linked env world) (hnumbered : Numbered world)
    (h : researchStep env world label = some (reply, world')) (hgiven : claim ∈ reply.given) :
    claim ∉ world.claims := by
  intro hold
  obtain ⟨job, -, hbefore, -, hattempt, -⟩ := attempt_of_given hlinked h hgiven
  have hle := hnumbered claim hold job hbefore
  omega

theorem numbered_initial : Numbered .initial := fun _ hclaim => nomatch hclaim

theorem numbered_step (hlinked : Linked env world) (hnumbered : Numbered world)
    (h : researchStep env world label = some (reply, world')) : Numbered world' := by
  intro claim hclaim job' hjob'
  rw [(researchStep_grown h).claims, List.mem_append] at hclaim
  rcases hclaim with hold | hnew
  · -- the attempts of a job never go down
    have hkept : ∀ {job : Job}, world.db.jobs.find? claim.jobId = some job →
        job.attemptCount ≤ job'.attemptCount → claim.attemptCount ≤ job'.attemptCount :=
      fun hbefore hle => (hnumbered claim hold _ hbefore).trans hle
    cases researchStep_job hlinked h claim.jobId with
    | same hrow => exact hkept (hrow.symm.trans hjob') (Nat.le_refl _)
    | created job hbefore hafter _ _ _ _ _ hdrawn =>
      obtain ⟨fresh, hlow, -, hid⟩ := hdrawn
      obtain ⟨index, hlt, hid'⟩ := hlinked.claims_drawn claim hold
      have hsame := env.randomUUID_injective (hid.symm.trans hid')
      omega
    | purged hafter =>
      rw [hafter] at hjob'
      cases hjob'
    | resumed job _ _ hbefore hafter =>
      cases hafter.symm.trans hjob'
      exact hkept hbefore (Nat.le_refl _)
    | exhausted job _ hbefore hafter =>
      cases hafter.symm.trans hjob'
      exact hkept hbefore (Nat.le_refl _)
    | claimed job _ _ _ hbefore hafter =>
      cases hafter.symm.trans hjob'
      exact hkept hbefore (Nat.le_succ _)
    | renewed job _ _ hbefore hafter =>
      cases hafter.symm.trans hjob'
      exact hkept hbefore (Nat.le_refl _)
    | checkpointed job _ _ hbefore hafter =>
      cases hafter.symm.trans hjob'
      exact hkept hbefore (Nat.le_refl _)
    | settled job _ outcome _ timestamp _ _ hbefore _ hafter =>
      cases hafter.symm.trans hjob'
      refine hkept hbefore ?_
      cases outcome with
      | failedRetryable =>
        unfold Job.settled
        dsimp only
        split <;> exact Nat.le_refl _
      | _ => exact Nat.le_refl _
  · obtain ⟨-, job, -, hafter, -, hnumber⟩ := attempt_of_given hlinked h hnew
    cases hafter.symm.trans hjob'
    exact hnumber.ge

end Numbers

/-! ### One job -/

/-- The attempts that a row may show after so many resumptions. -/
structure Job.Accounted (requeued : Nat) (job : Job) : Prop where
  bound : job.attemptCount ≤ 5 + requeued
  queued : job.state = .queued → job.attemptCount ≤ 4 + requeued
  retryable : job.state = .failedRetryable →
    job.attemptCount < 5 ∧ job.nextAttemptAt.isSome = true

namespace Job.Accounted
variable {requeued requeued' : Nat} {job : Job}

theorem mono (h : job.Accounted requeued) (hle : requeued ≤ requeued') :
    job.Accounted requeued' where
  bound := by
    have hbound := h.bound
    omega
  queued := by
    intro hstate
    have hqueued := h.queued hstate
    omega
  retryable := h.retryable

/-- A row that is neither queued nor to be retried needs the bound only. -/
theorem of_bound (hbound : job.attemptCount ≤ 5 + requeued) (hqueued : job.state ≠ .queued)
    (hretryable : job.state ≠ .failedRetryable) : job.Accounted requeued :=
  ⟨hbound, fun hstate => absurd hstate hqueued, fun hstate => absurd hstate hretryable⟩

theorem resumed (h : job.Accounted requeued) (now : Instant) :
    (job.resumed now).Accounted (requeued + 1) where
  bound := h.bound.trans (by omega)
  queued := by
    intro _
    have hbound := h.bound
    change job.attemptCount ≤ _
    omega
  retryable := fun hstate => nomatch hstate

/-- A claim is the next attempt of a queued job, of one to be retried or of an expired one. -/
theorem claimed (h : job.Accounted requeued) {now : Instant}
    (hclaimable : job.isClaimable now = true) (workerId : String) (leaseDurationMs : Int)
    (now' : Instant) : (job.claimed workerId leaseDurationMs now').Accounted requeued := by
  refine .of_bound ?_ nofun nofun
  change job.attemptCount + 1 ≤ 5 + requeued
  unfold Job.isClaimable at hclaimable
  simp only [Bool.or_eq_true, Bool.and_eq_true, decide_eq_true_eq] at hclaimable
  rcases hclaimable with (hqueued | ⟨hretryable, -⟩) | ⟨-, hleft⟩
  · have hbound := h.queued hqueued
    omega
  · have hbound := (h.retryable hretryable).1
    omega
  · omega

theorem settled (h : job.Accounted requeued) (outcome : SourceResearchOutcome)
    (timestamp : Instant) : (job.settled outcome timestamp).Accounted requeued := by
  cases outcome with
  | evidence => exact .of_bound h.bound nofun nofun
  | noResult => exact .of_bound h.bound nofun nofun
  | waitingChallenge => exact .of_bound h.bound nofun nofun
  | failedFinal => exact .of_bound h.bound nofun nofun
  | failedRetryable summary =>
    unfold Job.settled
    dsimp only
    split
    · exact .of_bound h.bound nofun nofun
    · rename_i hleft
      exact ⟨h.bound, nofun, fun _ => ⟨Nat.lt_of_not_le hleft, rfl⟩⟩

end Job.Accounted

theorem settled_attemptCount (outcome : SourceResearchOutcome) (timestamp : Instant) (job : Job) :
    (job.settled outcome timestamp).attemptCount = job.attemptCount := by
  cases outcome with
  | failedRetryable =>
    unfold Job.settled
    dsimp only
    split <;> rfl
  | _ => rfl

/-! ### Runs -/

/-- The claims of a job so far, in the trace and in its row. -/
structure Attempted (env : ResearchEnvironment) (jobId : String) (es : List ResearchEntry)
    (world : ResearchWorld) : Prop where
  linked : Linked env world
  given : claimCount jobId es = world.claims.countP fun claim => claim.jobId = jobId
  bound : claimCount jobId es ≤ 5 + requeueCount jobId es
  row : ∀ job, world.db.jobs.find? jobId = some job →
    claimCount jobId es = job.attemptCount ∧ job.Accounted (requeueCount jobId es)

section Runs
variable {env : ResearchEnvironment} {jobId : String} {pre es : List ResearchEntry}
  {world world' : ResearchWorld} {label : ResearchLabel} {reply : ResearchReply}

/-- The claims that a step gives out are those that its reply shows. -/
theorem given_step (h : researchStep env world label = some (reply, world')) :
    (world'.claims.countP fun claim => claim.jobId = jobId) =
      (world.claims.countP fun claim => claim.jobId = jobId) +
        if reply.claims jobId then 1 else 0 := by
  rw [(researchStep_grown h).claims, List.countP_append, ResearchReply.countP_given]

theorem attempted_step (h : Attempted env jobId pre world)
    (hstep : researchStep env world label = some (reply, world')) :
    Attempted env jobId (pre ++ [⟨world, label, reply, world'⟩]) world' := by
  have hle : requeueCount jobId pre ≤ requeueCount jobId (pre ++ [⟨world, label, reply, world'⟩]) :=
    requeueCount_le
  have hgiven : claimCount jobId (pre ++ [⟨world, label, reply, world'⟩]) =
      world'.claims.countP fun claim => claim.jobId = jobId := by
    rw [claimCount_append, h.given, given_step hstep]
  have hbound := h.bound
  -- a step that gives out no claim of the job and keeps its attempts
  have hquiet : reply.claims jobId = false → (∀ job', world'.db.jobs.find? jobId = some job' →
      ∃ job, world.db.jobs.find? jobId = some job ∧ job'.attemptCount = job.attemptCount ∧
        (job.Accounted (requeueCount jobId pre) →
          job'.Accounted (requeueCount jobId (pre ++ [⟨world, label, reply, world'⟩])))) →
      Attempted env jobId (pre ++ [⟨world, label, reply, world'⟩]) world' := by
    intro hquiet hrow
    have hcount : claimCount jobId (pre ++ [⟨world, label, reply, world'⟩]) =
        claimCount jobId pre := by
      rw [claimCount_append, hquiet]
      rfl
    refine ⟨linked_step h.linked hstep, hgiven, by omega, fun job' hjob' => ?_⟩
    obtain ⟨job, hjob, hattempts, haccounted⟩ := hrow job' hjob'
    rw [hcount, hattempts]
    exact ⟨(h.row job hjob).1, haccounted (h.row job hjob).2⟩
  cases researchStep_job h.linked hstep jobId with
  | same hrow _ hquiet' =>
    exact hquiet hquiet'.claims_eq fun job hjob =>
      ⟨job, hrow.symm.trans hjob, rfl, fun h => h.mono hle⟩
  | created job hbefore hafter _ _ hqueued hattempts _ hdrawn hquiet' =>
    -- the id is new, so that no claim has it
    have hnone : claimCount jobId pre = 0 := by
      rw [h.given, List.countP_eq_zero]
      intro claim hclaim hid
      obtain ⟨index, hlt, hclaimed⟩ := h.linked.claims_drawn claim hclaim
      obtain ⟨fresh, hlow, -, hfresh⟩ := hdrawn
      rw [of_decide_eq_true hid, hfresh] at hclaimed
      have hsame := env.randomUUID_injective hclaimed
      omega
    have hcount : claimCount jobId (pre ++ [⟨world, label, reply, world'⟩]) = 0 := by
      rw [claimCount_append, hquiet'.claims_eq, hnone]
      rfl
    refine ⟨linked_step h.linked hstep, hgiven, by omega, fun job' hjob' => ?_⟩
    cases hafter.symm.trans hjob'
    refine ⟨by rw [hcount, hattempts], ⟨by omega, fun _ => by omega, fun hstate => ?_⟩⟩
    rw [hqueued] at hstate
    cases hstate
  | purged hafter _ hquiet' =>
    refine hquiet hquiet'.claims_eq fun job hjob => ?_
    rw [hafter] at hjob
    cases hjob
  | resumed job scope now hbefore hafter _ hlabel hwaits hquiet' =>
    refine hquiet hquiet'.claims_eq fun job' hjob' => ?_
    cases hafter.symm.trans hjob'
    refine ⟨job, hbefore, rfl, fun h => ?_⟩
    have hrequeued : requeueCount jobId (pre ++ [⟨world, label, reply, world'⟩]) =
        requeueCount jobId pre + 1 := by
      have hentry : requeues jobId ⟨world, label, reply, world'⟩ = true := by
        rw [hlabel]
        exact (Option.any_eq_true _ _).mpr ⟨job, hbefore, hwaits⟩
      rw [requeueCount_append, hentry]
      rfl
    rw [hrequeued]
    exact h.resumed now
  | exhausted job now hbefore hafter _ _ hquiet' =>
    refine hquiet hquiet'.claims_eq fun job' hjob' => ?_
    cases hafter.symm.trans hjob'
    exact ⟨job, hbefore, rfl, fun h => .of_bound (h.mono hle).bound nofun nofun⟩
  | renewed job leaseDurationMs now hbefore hafter _ hrunning hquiet' =>
    refine hquiet hquiet'.claims_eq fun job' hjob' => ?_
    cases hafter.symm.trans hjob'
    refine ⟨job, hbefore, rfl, fun h => .of_bound (h.mono hle).bound ?_ ?_⟩
    · exact fun hstate => nomatch hrunning.symm.trans hstate
    · exact fun hstate => nomatch hrunning.symm.trans hstate
  | checkpointed job checkpoint now hbefore hafter _ hrunning hquiet' =>
    refine hquiet hquiet'.claims_eq fun job' hjob' => ?_
    cases hafter.symm.trans hjob'
    refine ⟨job, hbefore, rfl, fun h => .of_bound (h.mono hle).bound ?_ ?_⟩
    · exact fun hstate => nomatch hrunning.symm.trans hstate
    · exact fun hstate => nomatch hrunning.symm.trans hstate
  | settled job claim outcome lockedAt timestamp _ hreply hbefore _ hafter =>
    refine hquiet (by rw [hreply]; rfl) fun job' hjob' => ?_
    cases hafter.symm.trans hjob'
    exact ⟨job, hbefore, settled_attemptCount outcome timestamp job,
      fun h => (h.mono hle).settled outcome timestamp⟩
  | claimed job workerId leaseDurationMs now hbefore hafter _ hclaimable hreply =>
    obtain ⟨hattempts, haccounted⟩ := h.row job hbefore
    have hnew := (haccounted.mono hle).claimed hclaimable workerId leaseDurationMs now
    have hcount : claimCount jobId (pre ++ [⟨world, label, reply, world'⟩]) =
        job.attemptCount + 1 := by
      have hid : job.jobId = jobId := (Table.find?_eq_some.mp hbefore).2
      have hclaims : reply.claims jobId = true := by
        rw [hreply]
        exact decide_eq_true hid
      rw [claimCount_append, hattempts, hclaims]
      rfl
    refine ⟨linked_step h.linked hstep, hgiven, hcount ▸ hnew.bound, fun job' hjob' => ?_⟩
    cases hafter.symm.trans hjob'
    exact ⟨hcount, hnew⟩

theorem attempted_initial : Attempted env jobId [] .initial where
  linked := linked_initial
  given := rfl
  bound := Nat.zero_le _
  row := fun _ hjob => nomatch hjob

/-- A job that has ended, or that was deleted after it had. -/
structure Ended (env : ResearchEnvironment) (jobId : String) (job : Job) (world : ResearchWorld) :
    Prop where
  linked : Linked env world
  drawn : ∃ index < world.db.uuidsDrawn, jobId = env.randomUUID index
  row : ∀ row, world.db.jobs.find? jobId = some row → row = job

theorem isTerminal_iff {state : JobState} : state.isTerminal = true ↔
    state ≠ .queued ∧ state ≠ .running ∧ state ≠ .waitingSourceLogin ∧
      state ≠ .failedRetryable := by
  cases state <;> simp [JobState.isTerminal]

/-- No statement matches the row of a job that has ended. -/
theorem ended_step {job : Job} (hterminal : job.state.isTerminal = true)
    (h : Ended env jobId job world) (hstep : researchStep env world label = some (reply, world')) :
    Ended env jobId job world' ∧ reply.claims jobId = false := by
  obtain ⟨hqueued, hrunning, hwaiting, hretryable⟩ := isTerminal_iff.mp hterminal
  have hdrawn := (researchStep_grown hstep).drawn
  obtain ⟨index, hlt, hid⟩ := h.drawn
  have hended : (∀ row, world'.db.jobs.find? jobId = some row → row = job) →
      Ended env jobId job world' :=
    fun hrow => ⟨linked_step h.linked hstep, ⟨index, hlt.trans_le hdrawn, hid⟩, hrow⟩
  cases researchStep_job h.linked hstep jobId with
  | same hrow _ hquiet =>
    exact ⟨hended fun row hfound => h.row row (hrow.symm.trans hfound), hquiet.claims_eq⟩
  | created _ _ _ _ _ _ _ _ hfresh =>
    obtain ⟨fresh, hlow, -, hid'⟩ := hfresh
    have hsame := env.randomUUID_injective (hid.symm.trans hid')
    omega
  | purged hafter _ hquiet =>
    refine ⟨hended fun row hfound => ?_, hquiet.claims_eq⟩
    rw [hafter] at hfound
    cases hfound
  | resumed row scope _ hbefore _ _ _ hwaits =>
    cases h.row row hbefore
    unfold Job.waitsFor at hwaits
    simp only [Bool.and_eq_true, decide_eq_true_eq] at hwaits
    exact absurd hwaits.2 hwaiting
  | exhausted row _ hbefore _ _ hexhausted =>
    cases h.row row hbefore
    unfold Job.isExhausted at hexhausted
    simp only [Bool.and_eq_true, decide_eq_true_eq] at hexhausted
    exact absurd hexhausted.1.1 hrunning
  | claimed row _ _ _ hbefore _ _ hclaimable =>
    cases h.row row hbefore
    unfold Job.isClaimable at hclaimable
    simp only [Bool.or_eq_true, Bool.and_eq_true, decide_eq_true_eq] at hclaimable
    rcases hclaimable with (hstate | ⟨hstate, -⟩) | ⟨⟨hstate, -⟩, -⟩
    · exact absurd hstate hqueued
    · exact absurd hstate hretryable
    · exact absurd hstate hrunning
  | renewed row _ _ hbefore _ _ hstate =>
    cases h.row row hbefore
    exact absurd hstate hrunning
  | checkpointed row _ _ hbefore _ _ hstate =>
    cases h.row row hbefore
    exact absurd hstate hrunning
  | settled row claim _ lockedAt _ _ _ hbefore hheld =>
    cases h.row row hbefore
    exact absurd (heldBy_running hheld) hrunning

/-- What every run keeps to for one job: a limit of five attempts and one more for each time
that it came back from waiting, another attempt for each failure to be retried, and no further
claim or change once it has ended. -/
structure AttemptsKept (jobId : String) (es : List ResearchEntry) (world : ResearchWorld) :
    Prop where
  claims : claimCount jobId es ≤ 5 + requeueCount jobId es
  attempts : ∀ job, world.db.jobs.find? jobId = some job →
    job.attemptCount ≤ 5 + requeueCount jobId es
  retryable : ∀ job, world.db.jobs.find? jobId = some job → job.state = .failedRetryable →
    job.attemptCount < 5 ∧ job.nextAttemptAt.isSome = true
  ended : ∀ pre entry post, es = pre ++ entry :: post → ∀ job,
    entry.after.db.jobs.find? jobId = some job → job.state.isTerminal = true →
      ∀ later ∈ post, later.reply.claims jobId = false ∧
        ∀ row, later.after.db.jobs.find? jobId = some row → row = job

theorem attempts_kept (hrun : Run (researchStep env) .initial es world) (jobId : String) :
    AttemptsKept jobId es world := by
  have hattempted : Attempted env jobId ([] ++ es) world :=
    hrun.history attempted_step attempted_initial
  rw [List.nil_append] at hattempted
  refine ⟨hattempted.bound, fun job hjob => (hattempted.row job hjob).2.bound,
    fun job hjob => (hattempted.row job hjob).2.retryable, ?_⟩
  intro pre entry post hes job hjob hterminal later hlater
  rw [hes, List.append_cons] at hrun
  obtain ⟨mid, hleft, hright⟩ := hrun.split
  have hmid : entry.after = mid := hleft.after_of_getLast? List.getLast?_concat
  rw [hmid] at hjob
  have hlinked : Linked env mid :=
    hleft.invariant (G := fun _ _ => True) (fun hs _ hstep => linked_step hs hstep)
      (fun _ _ => trivial) linked_initial
  obtain ⟨hmem, hkey⟩ := Table.find?_eq_some.mp hjob
  obtain ⟨index, hlt, hid⟩ := hlinked.jobs_drawn job hmem
  have hended : Ended env jobId job mid :=
    ⟨hlinked, ⟨index, hlt, hkey ▸ hid⟩, fun row hrow => Option.some.inj (hrow.symm.trans hjob)⟩
  have hlast := hright.invariant_entry (G := fun _ _ => True)
    (fun hs _ hstep => (ended_step hterminal hs hstep).1) (fun _ _ => trivial) hended hlater
  exact ⟨(ended_step hterminal hlast.1 (hright.entry_step hlater)).2, hlast.2.row⟩

end Runs

/-- The job waits for a login after its first attempt and is claimed twice afterwards, by workers
that crash. -/
def sampleAttempts : List ResearchLabel :=
  [.createBatch sampleBatch 0, sampleClaimNext "worker" 1,
   .beginComplete (sampleClaim "worker" 1) (.waitingChallenge .sms "login"),
   .settle (sampleClaim "worker" 1) (.waitingChallenge .sms "login") 1 1,
   .resumeSource ⟨"owner", "source", "account"⟩ 2, sampleClaimNext "worker" 3,
   sampleClaimNext "worker" 4]

theorem attempts_kept_sample : ∃ es world, Run (researchStep sampleResearch) .initial es world ∧
    es.map Entry.label = sampleAttempts ∧ claimCount sampleJobId es = 3 ∧
    AttemptsKept sampleJobId es world := by
  have hexec : (exec (researchStep sampleResearch) .initial sampleAttempts).any
      (fun result => claimCount sampleJobId result.1 == 3) = true := by decide +kernel
  obtain ⟨es, world, hrun, hlabels, hcount⟩ := exists_labelled_run_of_exec hexec
  exact ⟨es, world, hrun, hlabels, beq_iff_eq.mp hcount, attempts_kept hrun sampleJobId⟩

end ChoiceMind.SourceResearch
