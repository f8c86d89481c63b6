import ChoiceMind.Orchestrator.Results

/-!
# The run of an outcome

An attempt is kept under the id and the command of its call; the run that the call was made
for is no part of the key. Outcomes carry the run of the call that started their attempt.
-/

namespace ChoiceMind.Orchestrator

set_option autoImplicit false

open Contracts TaskPersistence Transition

variable {options : ExecutorOptions}

/-! ### Outcomes -/

/-- The agent run ids in a paused outcome. -/
def pausedRuns (outcome : RuntimePausedOutcome) : List String :=
  outcome.snapshot.agentRunId :: outcome.snapshot.checkpoint.agentRunId ::
    (outcome.effectReceipts.map EffectReceipt.agentRunId ++
      outcome.runEvents.map RunEvent.agentRunId)

def resultRuns : DecisionTaskResult → List String
  | .succeeded result => result.taskStatus.agentRunId :: result.runEvents.map RunEvent.agentRunId
  | .failed result => result.taskStatus.agentRunId :: result.runEvents.map RunEvent.agentRunId
  | .rejected _ => []

/-- The agent run ids that an outcome carries. -/
def carriedRuns : PersistentOutcome → List String
  | .paused outcome => pausedRuns outcome
  | .result result => resultRuns result
  | .failure _ => []

/-- What `execute` or `executePersistent` resolves to. -/
def Call.returned (call : Call) (attempt : DecisionTaskExecutionAttempt) : PersistentOutcome :=
  if call.forPersistence then attempt.persistentOutcome else .result attempt.result

/-- A paused outcome among the answers is labelled with the run of the invocation. -/
def LabelledAnswer (options : ExecutorOptions) (call : Call) (answer : RuntimeAnswer) : Prop :=
  ∀ value outcome, answer = .output value → value.paused = some outcome →
    ∀ run ∈ pausedRuns outcome, run = (call.invocation options).agentRunId

theorem createRuntimeFailedResult_runs {decisionTaskId agentRunId : String}
    {retryMode : RetryMode} :
    ∀ run ∈ resultRuns (createRuntimeFailedResult decisionTaskId agentRunId retryMode),
      run = agentRunId := by
  simp [resultRuns, createRuntimeFailedResult]

/-- The events of an accepted result belong to its run. -/
theorem resultRuns_of_valid {value : SuccessfulDecisionTaskResult}
    (h : ContractValid (.succeeded value)) :
    ∀ run ∈ resultRuns (.succeeded value), run = value.taskStatus.agentRunId := by
  obtain ⟨-, -, hinvariants⟩ := decodeDecisionTaskResultV1_eq_ok.mp h
  simp only [checkDecisionTaskResultInvariants, runEventIssues, List.append_eq_nil_iff]
    at hinvariants
  obtain ⟨⟨⟨⟨-, hevents⟩, -⟩, -⟩, -⟩ := hinvariants
  intro run hrun
  rcases List.mem_cons.mp hrun with hstatus | hevent
  · exact hstatus
  · obtain ⟨event, hin, rfl⟩ := List.mem_map.mp hevent
    obtain ⟨index, hissues⟩ := forEachIssue_nil_mem hevents hin
    rw [List.append_eq_nil_iff, issueIf_eq_nil] at hissues
    simpa using hissues.2

theorem finalizeRuntimeOutput_runs (call : Call) (output : Option RuntimeRunOutput) :
    (∀ run ∈ resultRuns (finalizeRuntimeOutput call output).result, run = call.agentRunId) ∧
      ∀ run ∈ carriedRuns (finalizeRuntimeOutput call output).persistentOutcome,
        run = call.agentRunId := by
  rcases finalizeRuntimeOutput_cases call output with hfailed | ⟨value, hvalue, hrun, -, hvalid⟩
  · rw [hfailed]
    exact ⟨createRuntimeFailedResult_runs, List.forall_mem_nil _⟩
  · rw [hvalue, ← hrun]
    exact ⟨resultRuns_of_valid hvalid, resultRuns_of_valid hvalid⟩

/-- Both outcomes of an attempt carry the run of the call that started it. -/
theorem executeOnce_runs {call : Call} {answer : RuntimeAnswer}
    (hlabelled : LabelledAnswer options call answer) :
    (∀ run ∈ resultRuns (executeOnce call answer).result, run = call.agentRunId) ∧
      ∀ run ∈ carriedRuns (executeOnce call answer).persistentOutcome,
        run = call.agentRunId := by
  cases answer with
  | output value =>
    simp only [executeOnce]
    split
    · rename_i pausedOutcome hpaused
      obtain ⟨outcome, hsome, hdecoded⟩ := Option.bind_eq_some_iff.mp hpaused
      refine ⟨createRuntimeFailedResult_runs, ?_⟩
      have hsame : pausedOutcome = outcome := by
        cases hdecode : decodeRuntimePausedOutcomeV1 outcome with
        | error rejection =>
          rw [hdecode] at hdecoded
          cases hdecoded
        | ok decoded =>
          rw [hdecode] at hdecoded
          cases hdecoded
          exact (decodeRuntimePausedOutcomeV1_ok hdecode).1
      rw [hsame]
      exact hlabelled value outcome rfl hsome
    · split
      · exact ⟨createRuntimeFailedResult_runs, List.forall_mem_nil _⟩
      · exact finalizeRuntimeOutput_runs call value.run
  | error code =>
    simp only [executeOnce]
    split
    · exact ⟨createRuntimeFailedResult_runs, List.forall_mem_nil _⟩
    · exact ⟨createRuntimeFailedResult_runs, List.forall_mem_nil _⟩

/-- The run that `complete` compares is one that the outcome carries. -/
theorem agentRunId_of_decoded {outcome : PersistentOutcome} {decoded : DecodedOutcome}
    (h : decodePersistentOutcome outcome = .ok decoded) {run : String}
    (hrun : decoded.agentRunId = some run) : run ∈ carriedRuns outcome := by
  cases outcome with
  | paused outcome =>
    obtain ⟨paused, hpaused, hdecoded⟩ := bind_eq_ok.mp h
    rw [decodedOrUnavailable_eq_ok] at hpaused
    cases hdecoded
    cases hrun
    rw [(decodeRuntimePausedOutcomeV1_ok hpaused).1]
    exact List.mem_cons_self
  | result result =>
    obtain ⟨value, hvalue, hdecoded⟩ := bind_eq_ok.mp h
    rw [decodedOrUnavailable_eq_ok] at hvalue
    obtain ⟨rfl, -, -⟩ := decodeDecisionTaskResultV1_eq_ok.mp hvalue
    cases value with
    | succeeded value =>
      cases hdecoded
      cases hrun
      exact List.mem_cons_self
    | failed value =>
      cases hdecoded
      cases hrun
      exact List.mem_cons_self
    | rejected error => cases hdecoded
  | failure outcome =>
    simp only [decodePersistentOutcome] at h
    split at h
    · cases h
      cases hrun
    · cases h

/-! ### Runs of the executor -/

/-- The attempt that a call receives from the receipts. -/
def Executor.cached (options : ExecutorOptions) (call : Call) (executor : Executor) :
    Option Attempt := do
  let receipt ← executor.receipts.find? call.executionRequestId
  if receipt.fingerprint = options.fingerprint call.command then
    let index ← receipt.attempt
    executor.attempts[index]?
  else none

/-- A call that receives a stored attempt is made for the run that started it. -/
def SameRun (options : ExecutorOptions) (before : Executor) : Event → Prop
  | .call call => ∀ attempt, before.cached options call = some attempt →
    attempt.call.agentRunId = call.agentRunId
  | _ => True

/-- The runtime labels its paused outcomes with the run it was started for. -/
def Labelled (options : ExecutorOptions) (before : Executor) : Event → Prop
  | .answer index answer => ∀ attempt, before.attempts[index]? = some attempt →
    LabelledAnswer options attempt.call answer
  | _ => True

/-- The paused outcomes among the answers are those of the attempts' own runs. -/
def AllLabelled (options : ExecutorOptions) (executor : Executor) : Prop :=
  ∀ attempt ∈ executor.attempts, ∀ answer, attempt.answer = some answer →
    LabelledAnswer options attempt.call answer

theorem allLabelled_step {executor next : Executor} {event : Event} {reply : Reply}
    (h : AllLabelled options executor) (hlabelled : Labelled options executor event)
    (hstep : step options executor event = some (reply, next)) : AllLabelled options next := by
  cases event with
  | call call =>
    cases hstep
    have hcases := executeAttempt_cases options call executor
    generalize executeAttempt options call executor = result at hcases
    cases hcases with
    | started =>
      intro attempt hin answer hanswer
      rcases List.mem_append.mp hin with hold | hnew
      · exact h attempt hold answer hanswer
      · rw [List.mem_singleton.mp hnew] at hanswer
        cases hanswer
    | joined => exact h
    | conflict => exact h
  | answer index answer =>
    simp only [step, Option.map_eq_some_iff] at hstep
    obtain ⟨_, hanswered, heq⟩ := hstep
    obtain ⟨call, hfound, rfl⟩ := answerAttempt_eq_some hanswered
    cases heq
    intro attempt hin other hother
    rcases List.mem_or_eq_of_mem_set hin with hold | rfl
    · exact h attempt hold other hother
    · cases hother
      exact hlabelled ⟨call, none⟩ hfound
  | continuation index =>
    simp only [step, Option.map_eq_some_iff] at hstep
    obtain ⟨_, hcontinue, heq⟩ := hstep
    cases heq
    obtain rfl | ⟨_, _, -, -, -, -, rfl⟩ := continueAttempt_eq_some hcontinue
    · exact h
    · exact h

/-- The attempt behind the promise of a call was started for the run of the call. -/
theorem promised_run {before executor : Executor} {call : Call} {index : Nat}
    (hcoherent : Coherent options before) (hsame : SameRun options before (.call call))
    (hpromise : (executeAttempt options call before).1 = .attempt index)
    (hlater : Extends (executeAttempt options call before).2 executor) :
    ∃ attempt, executor.attempts[index]? = some attempt ∧
      attempt.call.agentRunId = call.agentRunId := by
  have hcases := executeAttempt_cases options call before
  generalize executeAttempt options call before = result at hcases hpromise hlater
  cases hcases with
  | started =>
    cases hpromise
    obtain ⟨attempt, hfound, hcall, -⟩ := hlater.kept before.attempts.length ⟨call, none⟩
      (by simp [startAttempt])
    exact ⟨attempt, hfound, by rw [hcall]⟩
  | joined receipt k hfound hfingerprint hindex =>
    cases hpromise
    obtain ⟨old, hold, -⟩ := (hcoherent.held _ receipt index hfound hindex).here
    have hcached : before.cached options call = some old := by
      simp [Executor.cached, hfound, hfingerprint, hindex, hold]
    obtain ⟨attempt, hattempt, hcall, -⟩ := hlater.kept index old hold
    exact ⟨attempt, hattempt, by rw [hcall, hsame old hcached]⟩
  | conflict => cases hpromise

/-- An outcome that a call gets belongs to its run, and a completion of that run takes it. -/
structure OwnOutcome (call : Call) (outcome : PersistentOutcome) : Prop where
  carried : ∀ run ∈ carriedRuns outcome, run = call.agentRunId
  completable : ∀ (row : Operation) decoded, row.agentRunId = call.agentRunId →
    decodePersistentOutcome outcome = .ok decoded →
    (decoded.agentRunId.all fun agentRunId => row.agentRunId = agentRunId) = true

theorem ownOutcome_of_carried {call : Call} {outcome : PersistentOutcome}
    (h : ∀ run ∈ carriedRuns outcome, run = call.agentRunId) : OwnOutcome call outcome where
  carried := h
  completable := by
    intro row decoded hrow hdecoded
    rw [Option.all_eq_true]
    intro run hrun
    rw [decide_eq_true_eq, hrow]
    exact (h run (agentRunId_of_decoded hdecoded hrun)).symm

theorem outcomes_carry_run {es : List (Entry Executor Event Reply)} {executor : Executor}
    (hrun : Run (step options) Executor.empty es executor) (hsame : Guarded (SameRun options) es)
    (hlabelled : Guarded (Labelled options) es) {e : Entry Executor Event Reply} (he : e ∈ es)
    {call : Call} (hlabel : e.label = .call call) {promise : AttemptPromise}
    (hreply : e.reply = .promise promise) {attempt : DecisionTaskExecutionAttempt}
    (hawait : executor.await promise = some attempt) : OwnOutcome call (call.returned attempt) := by
  apply ownOutcome_of_carried
  obtain ⟨pre, post, rfl⟩ := List.append_of_mem he
  obtain ⟨before, hpre, hpost⟩ := hrun.split
  have hguard := hsame e he
  obtain ⟨_, _, _, _⟩ := e
  cases hpost with
  | cons hstep hrest =>
    cases hlabel
    cases hreply
    simp only [step, Option.some.injEq, Prod.mk.injEq, Reply.promise.injEq] at hstep
    obtain ⟨hpromise, rfl⟩ := hstep
    have hall : AllLabelled options executor :=
      hrun.invariant (fun h hG hstep => allLabelled_step h hG hstep) hlabelled
        (List.forall_mem_nil _)
    cases promise with
    | attempt index =>
      obtain ⟨own, hown, hownRun⟩ := promised_run (coherent_run hpre coherent_empty) hguard
        hpromise (extends_run hrest)
      simp only [Executor.await, Option.bind_eq_some_iff, Attempt.completed,
        Option.map_eq_some_iff] at hawait
      obtain ⟨stored, hstored, answer, hanswer, rfl⟩ := hawait
      rw [hown] at hstored
      cases hstored
      obtain ⟨hresult, houtcome⟩ :=
        executeOnce_runs (hall own (List.mem_of_getElem? hown) answer hanswer)
      rw [hownRun] at hresult houtcome
      unfold Call.returned
      split
      · exact houtcome
      · exact hresult
    | resolved resolved =>
      cases hawait
      have hcases := executeAttempt_cases options call before
      generalize executeAttempt options call before = answered at hcases hpromise
      cases hcases with
      | started => cases hpromise
      | joined => cases hpromise
      | conflict =>
        cases hpromise
        unfold Call.returned
        split <;> exact List.forall_mem_nil _

/-! ### A second run of one command -/

/-- The runtime pauses the run that it was started for. -/
def pausingAnswer : RuntimeAnswer := .output { paused := some (samplePaused "run-1") }

/-- The executor after a call for one run whose attempt paused. -/
def pausedOnce : Executor :=
  { (startAttempt sampleOptions (sampleCall "run-1") .empty).2 with
    attempts := [⟨sampleCall "run-1", some pausingAnswer⟩] }

theorem labelled_pausingAnswer :
    LabelledAnswer sampleOptions (sampleCall "run-1") pausingAnswer := by
  intro value outcome hvalue hpaused
  cases hvalue
  cases hpaused
  decide

theorem run_pausedOnce : ∃ e f, Run (step sampleOptions) Executor.empty [e, f] pausedOnce ∧
    Guarded (SameRun sampleOptions) [e, f] ∧ Guarded (Labelled sampleOptions) [e, f] ∧
    e.label = .call (sampleCall "run-1") ∧ e.reply = .promise (.attempt 0) := by
  have hstarted : step sampleOptions Executor.empty (.call (sampleCall "run-1")) =
      some (.promise (.attempt 0),
        (startAttempt sampleOptions (sampleCall "run-1") .empty).2) := by
    apply step_started
    intro receipt hfound
    cases hfound
  have hanswered : step sampleOptions
      (startAttempt sampleOptions (sampleCall "run-1") .empty).2 (.answer 0 pausingAnswer) =
      some (.done, pausedOnce) := rfl
  refine ⟨_, _, .cons hstarted (.cons hanswered (.nil _)), ?_, ?_, rfl, rfl⟩
  · rw [Guarded.cons_iff, Guarded.cons_iff]
    refine ⟨?_, trivial, Guarded.nil⟩
    intro attempt hcached
    cases hcached
  · rw [Guarded.cons_iff, Guarded.cons_iff]
    refine ⟨trivial, ?_, Guarded.nil⟩
    intro attempt hfound
    cases hfound
    exact labelled_pausingAnswer

theorem paused_outcome_carries_run : ∃ attempt, pausedOnce.await (.attempt 0) = some attempt ∧
    carriedRuns ((sampleCall "run-1").returned attempt) ≠ [] ∧
    OwnOutcome (sampleCall "run-1") ((sampleCall "run-1").returned attempt) := by
  obtain ⟨e, f, hrun, hsame, hlabelled, hlabel, hreply⟩ := run_pausedOnce
  refine ⟨executeOnce (sampleCall "run-1") pausingAnswer, rfl, by decide +kernel, ?_⟩
  exact outcomes_carry_run hrun hsame hlabelled List.mem_cons_self hlabel hreply rfl

/-- A call for another run of the command receives the outcome of the first run, and no
operation of its own run can be completed with it. -/
theorem foreign_outcome_returned : ∃ es executor e attempt decoded,
    Run (step sampleOptions) Executor.empty es executor ∧
      Guarded (Labelled sampleOptions) es ∧ e ∈ es ∧ e.label = .call (sampleCall "run-2") ∧
      e.reply = .promise (.attempt 0) ∧ executor.await (.attempt 0) = some attempt ∧
      "run-1" ∈ carriedRuns ((sampleCall "run-2").returned attempt) ∧
      decodePersistentOutcome ((sampleCall "run-2").returned attempt) = .ok decoded ∧
      ∀ (row : Operation) workerId completedAt, row.agentRunId = "run-2" →
        row.completableBy workerId decoded completedAt = false := by
  obtain ⟨e, f, hrun, -, hlabelled, -, -⟩ := run_pausedOnce
  have hreceipts : pausedOnce.receipts = Table.empty.set
      ⟨"request", sampleOptions.fingerprint sampleValue, some 0⟩ := rfl
  have hstored : pausedOnce.receipts.find? (sampleCall "run-2").executionRequestId =
      some ⟨"request", sampleOptions.fingerprint sampleValue, some 0⟩ := by
    rw [hreceipts, Table.find?_set]
    exact if_pos rfl
  have hjoined : step sampleOptions pausedOnce (.call (sampleCall "run-2")) =
      some (.promise (.attempt 0), pausedOnce) := step_joined hstored rfl rfl
  refine ⟨_, _, _, executeOnce (sampleCall "run-1") pausingAnswer,
    ⟨.paused .user, .paused (samplePaused "run-1"), some "run-1", some "task"⟩,
    hrun.append (.single hjoined), ?_, List.mem_append_right _ List.mem_cons_self, rfl, rfl, rfl,
    ?_, ?_, ?_⟩
  · exact Guarded.append_iff.mpr ⟨hlabelled, Guarded.cons_iff.mpr ⟨trivial, Guarded.nil⟩⟩
  · decide +kernel
  · decide +kernel
  · intro row workerId completedAt hrow
    simp [Operation.completableBy, hrow]

end ChoiceMind.Orchestrator
